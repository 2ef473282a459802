import GoTor.Lib.Text

/-!
# IP addresses

Addresses of Go's package `net`: byte strings of length 4 or 16.  `parseIP` reads the text of an
address as `netip.ParseAddr` does; the result always has 16 bytes, an IPv4 address behind
the mapped prefix.  A network is an address and a mask, and contains an address of its own family.
-/

namespace GoTor.Lib

/-! ### Reading -/

/-- One part of a dotted address: digits without a leading zero, at most 255. -/
def parseOctet (s : Bytes) : Option UInt8 :=
  if s = [] ∨ s.all isDigit = false ∨ (1 < s.length ∧ s.head? = some 48) ∨ 255 < decimalValue s
  then none
  else some (UInt8.ofNat (decimalValue s))

/-- `parseIPv4Fields`: the four bytes of a dotted address. -/
def parseIPv4Fields (s : Bytes) : Option Bytes :=
  match s.splitOn 46 with
  | [a, b, c, d] => [a, b, c, d].mapM parseOctet
  | _ => none

def hexValue (c : UInt8) : Option ℕ :=
  if 48 ≤ c ∧ c ≤ 57 then some (c.toNat - 48)
  else if 97 ≤ c ∧ c ≤ 102 then some (c.toNat - 87)
  else if 65 ≤ c ∧ c ≤ 70 then some (c.toNat - 55)
  else none

/-- The groups of `netip.parseIPv6`: the bytes read so far, the place of `::` among them, and what
is left of the text.  One group a round, eight at most. -/
def parseIPv6Groups : (rounds : ℕ) → Bytes → Option ℕ → Bytes → Option (Bytes × Option ℕ × Bytes)
  | 0, ip, ellipsis, s => some (ip, ellipsis, s)
  | rounds + 1, ip, ellipsis, s =>
    let digits := s.takeWhile fun c => (hexValue c).isSome
    let rest := s.drop digits.length
    if digits = [] ∨ 4 < digits.length then none
    else if rest.head? = some 46 then
      -- an IPv4 address at the end
      if (ellipsis = none ∧ ip.length ≠ 12) ∨ 16 < ip.length + 4 then none
      else (parseIPv4Fields s).map fun v4 => (ip ++ v4, ellipsis, [])
    else
      let ip := ip ++ bytesOfNat 2 ((digits.filterMap hexValue).foldl (fun v d => 16 * v + d) 0)
      match rest with
      | [] => some (ip, ellipsis, [])
      | [58] => none
      | 58 :: 58 :: rest =>
        if ellipsis.isSome then none
        else if rest = [] then some (ip, some ip.length, [])
        else parseIPv6Groups rounds ip (some ip.length) rest
      | 58 :: rest => parseIPv6Groups rounds ip ellipsis rest
      | _ => none

/-- Zeros in the place of `::`, which stands for one group at least. -/
def expandEllipsis (ip : Bytes) : Option ℕ → Option Bytes
  | none => if ip.length < 16 then none else some ip
  | some at' =>
    if ip.length < 16 then some (ip.take at' ++ zeros (16 - ip.length) ++ ip.drop at') else none

/-- `netip.parseIPv6` of a text without a zone. -/
def parseIPv6 (s : Bytes) : Option Bytes := do
  let (ellipsis, s) := if [58, 58] <+: s then (some 0, s.drop 2) else (none, s)
  if ellipsis.isSome ∧ s = [] then some (zeros 16)
  else
    let (ip, ellipsis, rest) ← parseIPv6Groups 8 [] ellipsis s
    if rest ≠ [] then none else expandEllipsis ip ellipsis

/-- `v4InV6Prefix`. -/
def v4InV6 : Bytes := zeros 10 ++ [0xFF, 0xFF]

/-- `net.ParseIP`: the first dot, colon or percent sign says what the text is; an address with a
zone is none of this package's. -/
def parseIP (s : Bytes) : Option Bytes :=
  match s.find? fun c => c = 46 || c = 58 || c = 37 with
  | some 46 => (parseIPv4Fields s).map (v4InV6 ++ ·)
  | some 58 => if 37 ∈ s then none else parseIPv6 s
  | _ => none

/-! ### Families and networks -/

/-- A value of type `net.IP` that is an address. -/
def IsIP (ip : Bytes) : Prop := ip.length = 4 ∨ ip.length = 16

instance (ip : Bytes) : Decidable (IsIP ip) := inferInstanceAs (Decidable (_ ∨ _))

def to4 (ip : Bytes) : Option Bytes :=
  if ip.length = 4 then some ip
  else if ip.length = 16 ∧ ip.take 12 = v4InV6 then some (ip.drop 12)
  else none

/-- `net.CIDRMask`, for `ones ≤ bits`. -/
def cidrMask (ones bits : ℕ) : Bytes :=
  bytesOfNat (bits / 8) (2 ^ bits - 2 ^ (bits - ones))

/-- `IP.Mask`, for an address and a mask of one length. -/
def maskIP (ip mask : Bytes) : Bytes := List.zipWith (· &&& ·) ip mask

structure IPNet where
  ip : Bytes
  mask : Bytes
  deriving DecidableEq

/-- `networkNumberAndMask`. -/
def IPNet.numberAndMask (n : IPNet) : Option (Bytes × Bytes) :=
  let ip := (to4 n.ip).getD n.ip
  if ¬ IsIP ip then none
  else if n.mask.length = 4 then if ip.length = 4 then some (ip, n.mask) else none
  else if n.mask.length = 16 then some (ip, if ip.length = 4 then n.mask.drop 12 else n.mask)
  else none

def IPNet.contains (n : IPNet) (ip : Bytes) : Bool :=
  match n.numberAndMask with
  | none => false
  | some (number, mask) =>
    let ip := (to4 ip).getD ip
    ip.length = number.length && maskIP number mask = maskIP ip mask

end GoTor.Lib
