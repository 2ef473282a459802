import GoTor.Lib.Base64
import GoTor.Lib.Strings
import GoTor.Relay.HsdirStore

/-!
# The directory server of a relay

Requests go through a `http.ServeMux`, which cleans paths and routes them by their longest
matching pattern, to the handler of a hidden-service descriptor.  The client names the descriptor
by the standard base64 text of the blinded key, which has slashes in it.
-/

namespace GoTor.Relay

open GoTor.Lib List

inductive Method
  | get | head | post | other
  deriving DecidableEq

inductive DirEncoding
  | lzma | zstd | gzip | deflate
  deriving DecidableEq

structure DirRequest where
  method : Method
  path : Bytes
  acceptEncoding : Bytes := []
  /-- `If-Modified-Since`, where it is there and can be read. -/
  ifModifiedSince : Option ℤ := none
  /-- The path ended in `.z`. -/
  isZ : Bool := false

inductive Route
  | consensusDiff | consensus | microdescs | certs | keysFP | hsPublish | hsFetch
  deriving DecidableEq

inductive DirResponse
  | redirect (path : Bytes)
  | error (status : ℕ)
  | notModified
  /-- A document, with its `Content-Encoding`. -/
  | document (contentEncoding : Option DirEncoding) (payload : Bytes)
  /-- Left to another handler. -/
  | passed (route : Route)
  deriving DecidableEq

/-! ### Routing -/

/-- The patterns of `handler`. -/
def patterns : List (Bytes × Route) :=
  [(ascii "/tor/status-vote/current/consensus-microdesc/diff/", .consensusDiff),
   (ascii "/tor/status-vote/current/consensus/diff/", .consensusDiff),
   (ascii "/tor/status-vote/current/consensus-microdesc/", .consensus),
   (ascii "/tor/status-vote/current/consensus-microdesc", .consensus),
   (ascii "/tor/status-vote/current/consensus/", .consensus),
   (ascii "/tor/status-vote/current/consensus", .consensus),
   (ascii "/tor/micro/all", .microdescs),
   (ascii "/tor/keys/all", .certs),
   (ascii "/tor/keys/fp/", .keysFP),
   (ascii "/tor/hs/3/publish", .hsPublish),
   (ascii "/tor/hs/3/", .hsFetch)]

/-- A pattern that ends in a slash stands for all paths below it. -/
def matchesPath (pattern path : Bytes) : Bool :=
  if pattern.getLast? = some 47 then pattern.isPrefixOf path else pattern == path

/-- The longest pattern that matches, and its handler. -/
def routeOf (path : Bytes) : Option (Bytes × Route) :=
  (patterns.filter fun p => matchesPath p.1 path).maxOn? fun p => p.1.length

/-- The path has a segment that is empty, `.` or `..`. -/
def NeedsCleaning (path : Bytes) : Prop :=
  [47, 47] <:+: path ∨ [47, 46, 47] <:+: path ++ [47] ∨ [47, 46, 46, 47] <:+: path ++ [47]

instance (path : Bytes) : Decidable (NeedsCleaning path) :=
  inferInstanceAs (Decidable (_ ∨ _ ∨ _))

/-- One segment of a path, after the segments that are kept so far. -/
def cleanSegment (kept : List Bytes) (segment : Bytes) : List Bytes :=
  if segment = [] ∨ segment = [46] then kept
  else if segment = [46, 46] then kept.dropLast
  else kept ++ [segment]

/-- `cleanPath`: the shortest equivalent path, with the slash at its end where there was one. -/
def cleanPath (path : Bytes) : Bytes :=
  let kept := (path.splitOn 47).foldl cleanSegment []
  let cleaned := kept.flatMap fun segment => 47 :: segment
  if kept = [] then [47] else if path.getLast? = some 47 then cleaned ++ [47] else cleaned

/-- `ServeMux`: a redirect, or the handler of the path. -/
def serveMux (path : Bytes) : Except DirResponse Route :=
  let cleaned := if NeedsCleaning path then cleanPath path else path
  if cleaned.getLast? ≠ some 47 ∧ cleaned ∉ patterns.map Prod.fst ∧ cleaned ++ [47] ∈ patterns.map Prod.fst then
    .error (.redirect (cleaned ++ [47]))
  else if NeedsCleaning path then .error (.redirect cleaned)
  else
    match routeOf path with
    | none => .error (.error 404)
    | some (_, route) => .ok route

/-! ### Answering with a document -/

section Documents

-- `directory.CompressDirBody`, where it does not fail
variable (compress : DirEncoding → Bytes → Option Bytes)

def acceptEncodingTokens (h : Bytes) : List Bytes :=
  ((h.splitOn 44).map fun p => toLower (trimSpace (cutBefore 59 p))).filter (· ≠ [])

def isConsensusDirPath (path : Bytes) : Bool := ascii "/status-vote/current/consensus" <:+: path

/-- The first of `x-zstd`, `gzip` and `deflate` that is accepted. -/
def fallbackDirEncoding (toks : List Bytes) : Option DirEncoding :=
  if ascii "x-zstd" ∈ toks then some .zstd
  else if ascii "gzip" ∈ toks then some .gzip
  else if ascii "deflate" ∈ toks then some .deflate
  else none

/-- `negotiateDirEncoding`: the encoding, and whether the answer does not name it. -/
def negotiateDirEncoding (r : DirRequest) : Option DirEncoding × Bool :=
  if r.acceptEncoding = [] then if r.isZ then (some .deflate, true) else (none, false)
  else
    let toks := acceptEncodingTokens r.acceptEncoding
    if ascii "x-tor-lzma" ∈ toks ∧ isConsensusDirPath r.path then (some .lzma, false)
    else (fallbackDirEncoding toks, false)

/-- The body in an encoding, or as it is where the encoder fails. -/
def compressDirBody (enc : Option DirEncoding) (body : Bytes) : Option DirEncoding × Bytes :=
  match enc.bind fun e => (compress e body).map fun payload => (e, payload) with
  | some (e, payload) => (some e, payload)
  | none => (none, body)

def writeDirBody (r : DirRequest) (body : Bytes) (mod : ℤ) (allowLzma : Bool) : DirResponse :=
  if r.ifModifiedSince.any fun t => mod ≤ t then .notModified
  else
    let toks := acceptEncodingTokens r.acceptEncoding
    let (enc, hideCE) := negotiateDirEncoding r
    let enc := if enc = some .lzma ∧ ¬ allowLzma then fallbackDirEncoding toks else enc
    let (used, payload) :=
      if enc = some .lzma then
        match compress .lzma body with
        | some payload => (some .lzma, payload)
        | none => compressDirBody compress (fallbackDirEncoding toks) body
      else compressDirBody compress enc body
    .document (if hideCE then none else used) (if r.method = .head then [] else payload)

def serveHSFetch (hs : HsDirStore) (now : ℤ) (r : DirRequest) : HsDirStore × DirResponse :=
  if r.method ≠ .get ∧ r.method ≠ .head then (hs, .error 405)
  else
    let raw := trim (· = 47) (trimStart (ascii "/tor/hs/3/") r.path)
    if raw = [] ∨ raw = ascii "publish" then (hs, .error 404)
    else
      match decodeRawStd raw with
      | none => (hs, .error 404)
      | some blinded =>
        if blinded.length ≠ 32 then (hs, .error 404)
        else
          match hs.get now blinded with
          | (hs, none) => (hs, .error 404)
          | (hs, some (body, mod)) => (hs, writeDirBody compress r body mod false)

def handler (hs : HsDirStore) (now : ℤ) (r : DirRequest) : HsDirStore × DirResponse :=
  let r := if ascii ".z" <:+ r.path then { r with path := trimEnd (ascii ".z") r.path, isZ := true } else r
  match serveMux r.path with
  | .error response => (hs, response)
  | .ok .hsFetch => serveHSFetch compress hs now r
  | .ok route => (hs, .passed route)

end Documents

/-! ### The client's request -/

/-- The path of `fetchFromHSDir`. -/
def fetchPath (blinded : Bytes) : Bytes := ascii "/tor/hs/3/" ++ encodeRawStd blinded

/-- `HTTPGetViaBeginDir`: what the relay reads of the request the client writes. -/
def httpGet (path : Bytes) : DirRequest where
  method := .get
  path := path
  acceptEncoding := ascii "identity"

/-! ### The client's request is answered -/

section Fetch

variable {compress : DirEncoding → Bytes → Option Bytes} {hs : HsDirStore} {now : ℤ}
  {blinded t : Bytes} {e : HsDirEntry}

lemma length_le_of_mem_patterns {p : Bytes} (h : p ∈ patterns.map Prod.fst) : p.length ≤ 50 := by
  revert p
  decide

lemma repeated_slash_iff : [47, 47] <:+: ascii "/tor/hs/3/" ++ t ↔ [47, 47] <:+: 47 :: t := by
  have hpath : ascii "/tor/hs/3/" ++ t = 47 :: 116 :: 111 :: 114 :: 47 :: 104 :: 115 :: 47 :: 51 :: 47 :: t := rfl
  rw [hpath]
  simp [infix_cons_iff]

lemma needsCleaning_iff (h : 46 ∉ t) :
    NeedsCleaning (ascii "/tor/hs/3/" ++ t) ↔ [47, 47] <:+: 47 :: t := by
  have hdot : (46 : UInt8) ∉ ascii "/tor/hs/3/" ++ t ++ [47] := by
    simp only [mem_append, not_or]
    exact ⟨⟨by decide, h⟩, by decide⟩
  have h1 : ¬ [47, 46, 47] <:+: ascii "/tor/hs/3/" ++ t ++ [47] :=
    not_infix_of_not_mem (by simp) hdot
  have h2 : ¬ [47, 46, 46, 47] <:+: ascii "/tor/hs/3/" ++ t ++ [47] :=
    not_infix_of_not_mem (by simp) hdot
  rw [NeedsCleaning, repeated_slash_iff]
  simp only [h1, h2, or_false]

lemma routeOf_fetch (h : 7 < t.length) :
    routeOf (ascii "/tor/hs/3/" ++ t) = some (ascii "/tor/hs/3/", .hsFetch) := by
  have hpublish : matchesPath (ascii "/tor/hs/3/publish") (ascii "/tor/hs/3/" ++ t) = false := by
    rw [matchesPath, if_neg (by decide), beq_eq_false_iff_ne]
    intro heq
    have hlen := congrArg length heq
    rw [length_append, show (ascii "/tor/hs/3/publish").length = 17 from rfl,
      show (ascii "/tor/hs/3/").length = 10 from rfl] at hlen
    omega
  have hfilter : (patterns.filter fun p => matchesPath p.1 (ascii "/tor/hs/3/" ++ t)) =
      [(ascii "/tor/hs/3/", .hsFetch)] := by
    simp only [patterns, filter_cons, hpublish]
    rfl
  rw [routeOf, hfilter]
  rfl

lemma serveMux_fetch (h : 40 < t.length) (hdot : 46 ∉ t) :
    (¬ [47, 47] <:+: 47 :: t → serveMux (ascii "/tor/hs/3/" ++ t) = .ok .hsFetch) ∧
    ([47, 47] <:+: 47 :: t → ∃ path, serveMux (ascii "/tor/hs/3/" ++ t) = .error (.redirect path)) := by
  have hclean := needsCleaning_iff hdot
  constructor
  · intro hno
    have hdirty : ¬ NeedsCleaning (ascii "/tor/hs/3/" ++ t) := fun hn => hno (hclean.1 hn)
    have htree : ascii "/tor/hs/3/" ++ t ++ [47] ∉ patterns.map Prod.fst := by
      intro hmem
      have hle := length_le_of_mem_patterns hmem
      simp only [length_append] at hle
      rw [show (ascii "/tor/hs/3/").length = 10 from rfl] at hle
      omega
    have hroute := routeOf_fetch (t := t) (by omega)
    simp only [serveMux, if_neg hdirty, htree, and_false, if_false, hroute]
  · intro hin
    have hdirty := hclean.2 hin
    simp only [serveMux, if_pos hdirty]
    split
    · exact ⟨_, rfl⟩
    · exact ⟨_, rfl⟩

lemma writeDirBody_httpGet (compress : DirEncoding → Bytes → Option Bytes) (path body : Bytes)
    (mod : ℤ) (allowLzma : Bool) :
    writeDirBody compress (httpGet path) body mod allowLzma = .document none body := by
  rfl

lemma serveHSFetch_of_holds (hlen : blinded.length = 32) (hheld : hs.Holds now blinded e)
    (hno : ¬ [47, 47] <:+: 47 :: encodeRawStd blinded) :
    (serveHSFetch compress hs now (httpGet (fetchPath blinded))).2 = .document none e.body := by
  have htext : (encodeRawStd blinded).length = 43 := by rw [length_encodeRawStd, hlen]
  have htrim : trim (· = 47) (encodeRawStd blinded) = encodeRawStd blinded := by
    apply trim_eq_self
    · intro c hc
      obtain ⟨rest, hrest⟩ := head?_eq_some_iff.1 hc
      rw [decide_eq_false_iff_not]
      rintro rfl
      exact hno ⟨[], rest, by simp [hrest]⟩
    · intro c hc
      obtain ⟨v, hv, hlast⟩ := getLast?_encodeRawStd (b := blinded) (by omega)
      rw [hlast, Option.some.injEq] at hc
      rw [← hc, decide_eq_false_iff_not]
      exact base64Letter_ne_slash hv
  have hraw : trim (· = 47) (trimStart (ascii "/tor/hs/3/") (fetchPath blinded)) = encodeRawStd blinded := by
    rw [fetchPath, trimStart_append, htrim]
  have hnot : ¬ (encodeRawStd blinded = [] ∨ encodeRawStd blinded = ascii "publish") := by
    rintro (h | h) <;> rw [h] at htext <;> simp [ascii] at htext
  have hget := HsDirStore.get_of_holds hlen hheld
  rw [serveHSFetch]
  simp only [show (httpGet (fetchPath blinded)).path = fetchPath blinded from rfl, hraw,
    if_neg hnot, decodeRawStd_encodeRawStd, hlen]
  rw [← Prod.eta (hs.get now blinded), hget]
  exact writeDirBody_httpGet compress _ e.body e.mod false

/-- **The descriptor of a key is fetched exactly where its base64 text makes no empty segment.** -/
theorem fetch_answered_iff (compress : DirEncoding → Bytes → Option Bytes) (hs : HsDirStore)
    (now : ℤ) (blinded : Bytes) (e : HsDirEntry) (hlen : blinded.length = 32)
    (hheld : hs.Holds now blinded e) :
    (handler compress hs now (httpGet (fetchPath blinded))).2 = .document none e.body ↔
      ¬ [47, 47] <:+: 47 :: encodeRawStd blinded := by
  have hdot : (46 : UInt8) ∉ encodeRawStd blinded := by
    intro hin
    obtain ⟨v, hv, hletter⟩ := mem_encodeRawStd hin
    exact base64Letter_clean hv (by simp [← hletter])
  have hz : ¬ ascii ".z" <:+ (httpGet (fetchPath blinded)).path := by
    intro hsuf
    have hmem : (46 : UInt8) ∈ fetchPath blinded := hsuf.subset (by decide)
    rcases mem_append.1 hmem with hmem | hmem
    · revert hmem
      decide
    · exact hdot hmem
  obtain ⟨hok, hredirect⟩ := serveMux_fetch (t := encodeRawStd blinded)
    (by rw [length_encodeRawStd]; omega) hdot
  rw [handler, if_neg hz]
  change (match serveMux (fetchPath blinded) with
    | .error response => (hs, response)
    | .ok .hsFetch => serveHSFetch compress hs now (httpGet (fetchPath blinded))
    | .ok route => (hs, .passed route)).2 = _ ↔ _
  by_cases hin : [47, 47] <:+: 47 :: encodeRawStd blinded
  · obtain ⟨path, hpath⟩ := hredirect hin
    simp only [fetchPath] at hpath ⊢
    simp [hpath, hin]
  · have hroute := hok hin
    simp only [← fetchPath.eq_1] at hroute
    rw [hroute]
    simpa [hin] using serveHSFetch_of_holds hlen hheld hin

end Fetch

def storeOf (blinded : Bytes) : HsDirStore where
  byBlind := [(hexEncode blinded, ⟨ascii "hs-descriptor 3", 0, 1⟩)]

/-- The key of 32 ones has the text `AQEBAQEB…`. -/
theorem fetch_answered_ones :
    (handler (fun _ _ => none) (storeOf (List.replicate 32 1)) 60
      (httpGet (fetchPath (List.replicate 32 1)))).2 = .document none (ascii "hs-descriptor 3") :=
  (fetch_answered_iff (fun _ _ => none) (storeOf (replicate 32 1)) 60 (replicate 32 1)
    ⟨ascii "hs-descriptor 3", 0, 1⟩ (by decide) ⟨by decide, by decide⟩).2 (by decide)

/-- The text of a key that begins with six ones begins with a slash: the client is redirected to
the path of another text, and gets no descriptor. -/
theorem fetch_redirected :
    (storeOf (252 :: zeros 31)).Holds 60 (252 :: zeros 31) ⟨ascii "hs-descriptor 3", 0, 1⟩ ∧
    (handler (fun _ _ => none) (storeOf (252 :: zeros 31)) 60 (httpGet (fetchPath (252 :: zeros 31)))).2 =
        .redirect (ascii "/tor/hs/3/AAAAAAAAAAAAAAAAAAAAAAAAAAAAAAAAAAAAAAAAAA") := by
  refine ⟨⟨by decide, by decide⟩, by decide +kernel⟩

end GoTor.Relay
