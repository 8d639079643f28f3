import Mathlib.Data.List.Basic

namespace Filters

/-!
# First-match filters

A filter is a list of rules and a policy: the first rule that decides on a
packet wins, and the policy decides on what no rule decides.  The rules are of
any type; what a rule decides on a packet is a parameter.
-/

universe u v w

/-- What a filter decides on a packet. -/
inductive Verdict where
  | accept
  | drop
  deriving Repr, DecidableEq

/-- The verdict of a list of rules under a policy. -/
def verdict
    {Rule : Type u} {Packet : Type v} (outcome : Rule → Packet → Option Verdict)
    (policy : Verdict) (rules : List Rule) (packet : Packet) : Verdict :=
  (rules.findSome? fun rule => outcome rule packet).getD policy

/-- Without a rule the policy decides. -/
theorem verdict_nil
    {Rule : Type u} {Packet : Type v} (outcome : Rule → Packet → Option Verdict)
    (policy : Verdict) (packet : Packet) :
    verdict outcome policy [] packet = policy :=
  rfl

theorem verdict_cons
    {Rule : Type u} {Packet : Type v} (outcome : Rule → Packet → Option Verdict)
    (policy : Verdict) (rule : Rule) (rules : List Rule) (packet : Packet) :
    verdict outcome policy (rule :: rules) packet =
      (outcome rule packet).getD (verdict outcome policy rules packet) := by
  unfold verdict
  rw [List.findSome?_cons]
  cases outcome rule packet with
  | none => rfl
  | some decided => rfl

/-- Rules with the same outcomes have the same verdict. -/
theorem verdict_map {Rule : Type u} {Other : Type w} {Packet : Type v}
    {outcome : Rule → Packet → Option Verdict}
    {other : Other → Packet → Option Verdict} {rewrite : Rule → Other}
    {packet : Packet} (policy : Verdict) {rules : List Rule} (alike :
      ∀ rule ∈ rules, other (rewrite rule) packet = outcome rule packet) :
    verdict other policy (rules.map rewrite) packet =
      verdict outcome policy rules packet := by
  induction rules with
  | nil => rfl
  | cons rule rest inductionHypothesis =>
      have restAlike := inductionHypothesis fun next member =>
          alike next (List.mem_cons_of_mem rule member)
      rw [List.map_cons, verdict_cons, verdict_cons, restAlike,
        alike rule List.mem_cons_self]

theorem verdict_append
    {Rule : Type u} {Packet : Type v} (outcome : Rule → Packet → Option Verdict)
    (policy : Verdict) (first rest : List Rule) (packet : Packet) :
    verdict outcome policy (first ++ rest) packet =
      verdict outcome (verdict outcome policy rest packet) first packet := by
  induction first with
  | nil => rfl
  | cons rule others inductionHypothesis =>
      rw [List.cons_append, verdict_cons, verdict_cons, inductionHypothesis]

variable {policy : Verdict}

theorem verdict_of_idle
    {Rule : Type u} {Packet : Type v} {outcome : Rule → Packet → Option Verdict}
    {rules : List Rule} {packet : Packet} (idle : ∀ rule ∈ rules, ∀ decided,
        outcome rule packet = some decided → decided = policy) :
    verdict outcome policy rules packet = policy := by
  induction rules with
  | nil => rfl
  | cons rule rest inductionHypothesis =>
      have restIdle : verdict outcome policy rest packet = policy :=
        inductionHypothesis fun other member =>
          idle other (List.mem_cons_of_mem rule member)
      rw [verdict_cons, restIdle]
      cases decides : outcome rule packet with
      | none => rfl
      | some decided => exact idle rule List.mem_cons_self decided decides

theorem verdict_iff_exists
    {Rule : Type u} {Packet : Type v} {outcome : Rule → Packet → Option Verdict}
    {exception : Verdict} {rules : List Rule} {packet : Packet}
    (differs : exception ≠ policy) (exceptions : ∀ rule ∈ rules, ∀ decided,
        outcome rule packet = some decided → decided = exception) :
    verdict outcome policy rules packet = exception ↔
      ∃ rule ∈ rules, outcome rule packet = some exception := by
  induction rules with
  | nil =>
      constructor
      · intro same
        exact (differs same.symm).elim
      · rintro ⟨rule, member, decides⟩
        cases member
  | cons rule rest inductionHypothesis =>
      have restIff := inductionHypothesis fun other member =>
          exceptions other (List.mem_cons_of_mem rule member)
      rw [verdict_cons]
      cases decides : outcome rule packet with
      | none => simp [restIff, decides]
      | some decided =>
          have isException : decided = exception :=
            exceptions rule List.mem_cons_self decided decides
          simp [isException, decides]

end Filters
