import GoTor.Pool.CircuitPool

/-!
# The attribute a request is isolated by

What the enforcer's keys and the lists of the pool stand for: a request is isolated by one
attribute, the first one that the policy enables and the request has.  Two requests go to one
list of the pool exactly if they agree on it (`poolKey_eq_iff`).
-/

namespace GoTor.Stream

open GoTor.Lib GoTor.Pool IsolationKey Option

inductive Attribute
  | none
  | session (digest : Vector UInt8 32)
  | credential (digest : Vector UInt8 32)
  | destination (target : Bytes)
  | sourcePort (port : UInt16)
  deriving DecidableEq

/-- The attribute by which a policy isolates a request. -/
def isolationAttribute (L : IsolationLib) (policy : IsolationPolicy) (req : StreamRequest) : Attribute :=
  if policy.mode = .off then .none
  else if policy.isolateBySession ∧ req.sessionToken ≠ [] then
    .session (L.sha256 req.sessionToken)
  else if policy.isolateBySOCKSAuth ∧ req.socksUsername ≠ [] then
    .credential (L.sha256 req.socksUsername)
  else if policy.isolateByDestination ∧ req.target ≠ [] then .destination req.target
  else if policy.isolateBySourcePort then .sourcePort (extractSourcePort L req.sourceAddr)
  else .none

/-- The list of the pool for an attribute. -/
def Attribute.poolIndex : Attribute → Option Bytes
  | .none => .none
  | .session digest => some (ascii "session:" ++ hexEncode digest.toList)
  | .credential digest => some (ascii "creds:" ++ hexEncode digest.toList)
  | .destination target => some (ascii "dest:" ++ target)
  | .sourcePort port => some (ascii "port:" ++ itoa port.toNat)

open Attribute

lemma Attribute.poolIndex_injective : Function.Injective poolIndex := by
  have hhex : ∀ {d d' : Vector UInt8 32} {label : Bytes},
      some (label ++ hexEncode d.toList) = some (label ++ hexEncode d'.toList) → d = d' := by
    intro d d' label h
    have hlist := hexEncode_injective (List.append_cancel_left (some.inj h))
    exact Vector.toList_inj.1 hlist
  -- the labels differ in their first bytes
  have hfirst : ∀ {b c : UInt8} {x y : Bytes}, some (b :: x) = some (c :: y) → b = c :=
    fun h => (List.cons.inj (some.inj h)).1
  intro a b h
  cases a with
  | none =>
    cases b with
    | none => rfl
    | _ => cases h
  | session d =>
    cases b with
    | session d' => rw [hhex h]
    | none => cases h
    | _ => exact absurd (hfirst h) (by decide)
  | credential d =>
    cases b with
    | credential d' => rw [hhex h]
    | none => cases h
    | _ => exact absurd (hfirst h) (by decide)
  | destination target =>
    cases b with
    | destination target' => rw [List.append_cancel_left (some.inj h)]
    | none => cases h
    | _ => exact absurd (hfirst h) (by decide)
  | sourcePort port =>
    cases b with
    | sourcePort port' =>
      have hnat := itoa_injective (List.append_cancel_left (some.inj h))
      rw [UInt16.toNat_inj.1 hnat]
    | none => cases h
    | _ => exact absurd (hfirst h) (by decide)

section

variable (L : IsolationLib) (policy : IsolationPolicy) (req : StreamRequest)

lemma validateStreamRequest_key (h : policy.mode ≠ .off) : (validateStreamRequest L policy req).key =
      (buildKey L policy req (determineIsolationLevel policy req)).key := by
  unfold validateStreamRequest
  rw [if_neg h]
  dsimp only
  split
  · split
    · rfl
    · split <;> rfl
  · rfl

lemma poolKey_validateStreamRequest :
    poolKey (validateStreamRequest L policy req).key = (isolationAttribute L policy req).poolIndex := by
  by_cases hmode : policy.mode = .off
  · simp [validateStreamRequest, isolationAttribute, hmode, poolKey, poolIndex]
  rw [validateStreamRequest_key L policy req hmode]
  unfold isolationAttribute determineIsolationLevel
  split
  · next h => simp [buildKey, h.2, poolKey, key, poolIndex]
  split
  · next h => simp [buildKey, h.2, poolKey, key, poolIndex]
  split
  · simp [buildKey, poolKey, key, poolIndex]
  split
  · simp [buildKey, poolKey, key, poolIndex]
  · simp [buildKey, poolKey, poolIndex]

lemma poolKey_eq_iff (req' : StreamRequest) :
    poolKey (validateStreamRequest L policy req).key = poolKey (validateStreamRequest L policy req').key ↔
      isolationAttribute L policy req = isolationAttribute L policy req' := by
  rw [poolKey_validateStreamRequest, poolKey_validateStreamRequest]
  exact poolIndex_injective.eq_iff

end

end GoTor.Stream
