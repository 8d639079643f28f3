import Mathlib.Data.List.Basic

namespace Framing

/-!
# Framing

A format cuts a stream into frames from its front.  What is cut from a buffer
that grows piece by piece is what is cut from the whole stream, however it is
split into pieces.
-/

/-- What is in front of a buffer. -/
inductive Outcome (β σ α ε : Type) where
  | incomplete
  | rejected (error : ε)
  | frame (value : α) (state : σ) (rest : List β)

/-- A format, whose answer does not depend on what follows once it is more
than `incomplete`. -/
structure Format (β σ α ε : Type) where
  next : σ → List β → Outcome β σ α ε
  shorter : ∀ {state buffer value after rest},
    next state buffer = .frame value after rest → rest.length < buffer.length
  frame_append : ∀ {state buffer value after rest},
    next state buffer = .frame value after rest →
      ∀ later, next state (buffer ++ later) = .frame value after (rest ++ later)
  rejected_append : ∀ {state buffer error},
    next state buffer = .rejected error →
      ∀ later, next state (buffer ++ later) = .rejected error

variable {β σ α ε : Type}

namespace Format

/-- The frames of a buffer, and what is held back or was wrong. -/
def drain {β σ α ε : Type} (format : Format β σ α ε) (state : σ)
    (buffer : List β) : List α × Except ε (σ × List β) :=
  match _isNext : format.next state buffer with
  | .incomplete => ([], .ok (state, buffer))
  | .rejected error => ([], .error error)
  | .frame value after rest =>
      let drained := format.drain after rest
      (value :: drained.1, drained.2)
termination_by buffer.length
decreasing_by exact format.shorter _isNext

/-- The frames of a stream that comes in pieces. -/
def run {β σ α ε : Type} (format : Format β σ α ε) :
    σ → List β → List (List β) → List α × Except ε (σ × List β)
  | state, held, [] => ([], .ok (state, held))
  | state, held, piece :: pieces =>
      match format.drain state (held ++ piece) with
      | (values, .error error) => (values, .error error)
      | (values, .ok (after, rest)) =>
          let others := format.run after rest pieces
          (values ++ others.1, others.2)

variable {format : Format β σ α ε} {buffer rest : List β} {after : σ}
  {state : σ}

/-- An incomplete frame stays in the buffer. -/
theorem drain_incomplete (isNext : format.next state buffer = .incomplete) :
    format.drain state buffer = ([], .ok (state, buffer)) := by
  rw [drain]
  split
  · rfl
  · rename_i isOther
    rw [isNext] at isOther
    cases isOther
  · rename_i isOther
    rw [isNext] at isOther
    cases isOther

/-- A rejected frame ends the reading. -/
theorem drain_rejected
    {error : ε} (isNext : format.next state buffer = .rejected error) :
    format.drain state buffer = ([], .error error) := by
  rw [drain]
  split
  · rename_i isOther
    rw [isNext] at isOther
    cases isOther
  · rename_i isOther
    rw [isNext] at isOther
    cases isOther
    rfl
  · rename_i isOther
    rw [isNext] at isOther
    cases isOther

theorem drain_frame
    {value : α} (isNext : format.next state buffer = .frame value after rest) :
    format.drain state buffer =
      (value :: (format.drain after rest).1, (format.drain after rest).2) := by
  rw [drain]
  split
  · rename_i isOther
    rw [isNext] at isOther
    cases isOther
  · rename_i isOther
    rw [isNext] at isOther
    cases isOther
  · rename_i isOther
    rw [isNext] at isOther
    cases isOther
    rfl

theorem drain_induction (format : Format β σ α ε) {motive : σ → List β → Prop}
    (incomplete : ∀ state buffer,
      format.next state buffer = .incomplete → motive state buffer)
    (rejected : ∀ state buffer error,
      format.next state buffer = .rejected error → motive state buffer)
    (frame : ∀ state buffer value after rest,
      format.next state buffer = .frame value after rest →
        motive after rest → motive state buffer)
    (state : σ) (buffer : List β) :
    motive state buffer :=
  drain.induct format motive incomplete rejected frame state buffer

theorem drain_held {values : List α}
    (isDrained : format.drain state buffer = (values, .ok (after, rest))) :
    format.next after rest = .incomplete := by
  induction state, buffer using drain_induction format generalizing values with
  | incomplete state buffer isNext =>
      rw [drain_incomplete isNext] at isDrained
      obtain ⟨-, same⟩ := Prod.mk.inj isDrained
      obtain ⟨rfl, rfl⟩ := Prod.mk.inj (Except.ok.inj same)
      exact isNext
  | rejected state buffer error isNext =>
      rw [drain_rejected isNext] at isDrained
      cases (Prod.mk.inj isDrained).2
  | frame state buffer value next behind isNext inductionHypothesis =>
      rw [drain_frame isNext] at isDrained
      exact inductionHypothesis (Prod.ext rfl (Prod.mk.inj isDrained).2)

theorem drain_append
    (format : Format β σ α ε) (state : σ) (buffer later : List β) :
    format.drain state (buffer ++ later) =
      match format.drain state buffer with
      | (values, .error error) => (values, .error error)
      | (values, .ok (after, rest)) =>
          (values ++ (format.drain after (rest ++ later)).1,
            (format.drain after (rest ++ later)).2) := by
  induction state, buffer using drain_induction format with
  | incomplete state buffer isNext =>
      rw [drain_incomplete isNext]
      rfl
  | rejected state buffer error isNext =>
      rw [drain_rejected isNext,
        drain_rejected (format.rejected_append isNext later)]
  | frame state buffer value next behind isNext inductionHypothesis =>
      rw [drain_frame isNext, drain_frame (format.frame_append isNext later),
        inductionHypothesis]
      cases format.drain next behind with
      | mk values stop =>
          cases stop with
          | error error => rfl
          | ok held => rfl

/-! ## Frames that are acted on -/

/-- A format whose frames are acted on one by one. -/
def refine {β τ σ α γ ε : Type} (format : Format β τ α ε)
    (act : σ → α → Except ε (γ × σ)) :
    Format β (τ × σ) γ ε where
  next := fun state buffer =>
    match format.next state.1 buffer with
    | .incomplete => .incomplete
    | .rejected error => .rejected error
    | .frame value after rest =>
        match act state.2 value with
        | .error error => .rejected error
        | .ok (result, later) => .frame result (after, later) rest
  shorter := by
    intro state buffer value after rest isFrame
    cases isNext : format.next state.1 buffer with
    | incomplete =>
        simp only [isNext] at isFrame
        cases isFrame
    | rejected error =>
        simp only [isNext] at isFrame
        cases isFrame
    | frame found next behind =>
        simp only [isNext] at isFrame
        cases isActed : act state.2 found with
        | error error =>
            simp only [isActed] at isFrame
            cases isFrame
        | ok acted =>
            simp only [isActed] at isFrame
            cases isFrame
            exact format.shorter isNext
  frame_append := by
    intro state buffer value after rest isFrame later
    cases isNext : format.next state.1 buffer with
    | incomplete =>
        simp only [isNext] at isFrame
        cases isFrame
    | rejected error =>
        simp only [isNext] at isFrame
        cases isFrame
    | frame found next behind =>
        simp only [isNext] at isFrame
        simp only [format.frame_append isNext later]
        cases isActed : act state.2 found with
        | error error =>
            simp only [isActed] at isFrame
            cases isFrame
        | ok acted =>
            simp only [isActed] at isFrame ⊢
            cases isFrame
            rfl
  rejected_append := by
    intro state buffer error isRejected later
    cases isNext : format.next state.1 buffer with
    | incomplete =>
        simp only [isNext] at isRejected
        cases isRejected
    | rejected other =>
        simp only [isNext] at isRejected
        simp only [format.rejected_append isNext later]
        exact isRejected
    | frame found next behind =>
        simp only [isNext] at isRejected
        simp only [format.frame_append isNext later]
        cases isActed : act state.2 found with
        | error other =>
            simp only [isActed] at isRejected ⊢
            exact isRejected
        | ok acted =>
            simp only [isActed] at isRejected
            cases isRejected

end Format

/-- What comes of frames that are acted on one by one, up to the first
error. -/
def interpret {σ α γ ε : Type} (act : σ → α → Except ε (γ × σ)) :
    σ → List α → List γ × Except ε σ
  | state, [] => ([], .ok state)
  | state, value :: values =>
      match act state value with
      | .error error => ([], .error error)
      | .ok (result, after) =>
          let others := interpret act after values
          (result :: others.1, others.2)

namespace Format

theorem drain_refine {τ γ : Type} (format : Format β τ α ε)
    (act : σ → α → Except ε (γ × σ)) (state : τ) (inner : σ) (buffer : List β) :
    (format.refine act).drain (state, inner) buffer =
      match interpret act inner (format.drain state buffer).1 with
      | (results, .error error) => (results, .error error)
      | (results, .ok later) =>
          (results, (format.drain state buffer).2.map
            fun held => ((held.1, later), held.2)) := by
  induction state, buffer using drain_induction format generalizing inner with
  | incomplete state buffer isNext =>
      have isIncomplete : (format.refine act).next (state, inner) buffer =
            .incomplete := by
        simp only [refine, isNext]
      rw [drain_incomplete isNext, drain_incomplete isIncomplete]
      rfl
  | rejected state buffer error isNext =>
      have isRejected : (format.refine act).next (state, inner) buffer =
            .rejected error := by
        simp only [refine, isNext]
      rw [drain_rejected isNext, drain_rejected isRejected]
      rfl
  | frame state buffer value next behind isNext inductionHypothesis =>
      rw [drain_frame isNext]
      dsimp only
      rw [interpret]
      cases isActed : act inner value with
      | error error =>
          have isRejected : (format.refine act).next (state, inner) buffer =
                .rejected error := by
            simp only [refine, isNext, isActed]
          rw [drain_rejected isRejected]
      | ok acted =>
          obtain ⟨result, later⟩ := acted
          have isFrame : (format.refine act).next (state, inner) buffer =
                .frame result (next, later) behind := by
            simp only [refine, isNext, isActed]
          rw [drain_frame isFrame, inductionHypothesis later]
          dsimp only
          cases interpret act later (format.drain next behind).1 with
          | mk results stop =>
              cases stop with
              | error error => rfl
              | ok after => rfl

end Format

end Framing
