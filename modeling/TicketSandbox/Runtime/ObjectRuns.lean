import TicketSandbox.Runtime.CallerFacts

namespace TicketSandbox.Runtime

/-!
# Objects over a run

Primary keys stay unique, an intent is of the kind of its object, and a
terminal with its phase never changes.
-/

open Sandbox (Timestamp)
open Authority

/-- The invariant of the objects. -/
structure Sound (db : Journal) : Prop where
  keys : (db.objects.map RuntimeObject.key).Nodup
  resources : ∀ row ∈ db.objects, row.intent.resource.kind = row.kind
  terminals : ∀ row ∈ db.objects, row.terminal ≠ none →
      row.kind = .run ∧ row.phase = .terminal

theorem Sound.fresh (live : Bool) (digest : Digested → Digest) :
    Sound (Journal.fresh live digest) where
  keys := by simp [Journal.fresh]
  resources := by simp [Journal.fresh]
  terminals := by simp [Journal.fresh]

variable {db old new : Journal} {row : RuntimeObject}
  {reopened : Option (Kind × Uuid)} {label : Label} {after : After}

namespace Journal

/-- The row as a move leaves it. -/
def movedRow (row : RuntimeObject) (phase : ObjectPhase) (cleanup : Cleanup)
    (terminal : Option Terminal) : RuntimeObject :=
  { row with phase := phase, cleanup := cleanup, terminal := terminal }

/-- A move changes one object. -/
theorem mem_moved
    {version : RuntimeObject} {phase : ObjectPhase} {cleanup : Cleanup}
    {terminal : Option Terminal} (member : row ∈ db.objects) :
    version ∈ db.moved row phase cleanup terminal ↔
      version = movedRow row phase cleanup terminal ∨
        (version ∈ db.objects ∧ version.key ≠ row.key) := by
  rw [moved, Rows.mem_modify]
  constructor
  · rintro ⟨old, oldMember, ⟨_, shape⟩ | ⟨different, shape⟩⟩
    · exact .inl shape
    · exact .inr ⟨shape ▸ oldMember, shape ▸ different⟩
  · rintro (shape | ⟨oldMember, different⟩)
    · exact ⟨row, member, .inl ⟨rfl, shape⟩⟩
    · exact ⟨version, oldMember, .inr ⟨different, rfl⟩⟩

variable {kind : Kind} {id : Uuid}

/-- An object is found under its key. -/
theorem object?_mem (unique : (db.objects.map RuntimeObject.key).Nodup)
    (member : row ∈ db.objects) (isKey : row.key = (kind, id)) :
    db.object? kind id = some row :=
  Rows.find?_of_key unique member (decide_eq_true isKey) fun _ same =>
    (of_decide_eq_true same).trans isKey.symm

theorem object?_none (absent : db.object? kind id = none) :
    ∀ row ∈ db.objects, row.key ≠ (kind, id) := by
  intro row member same
  have missing := List.find?_eq_none.mp absent row member
  simp [same] at missing

end Journal

namespace RowChange

theorem terminals
    (how : RowChange reopened old new row label after) (sound : Sound old)
    (member : row ∈ old.objects) (frozen : row.terminal ≠ none →
      after.terminal = row.terminal ∧ after.phase = row.phase)
    (stored : after.terminal ≠ none) :
    row.kind = .run ∧ after.phase = .terminal := by
  by_cases isOpen : row.terminal = none
  · cases how with
    | terminated terminal isRun isOpen published => exact ⟨isRun, rfl⟩
    | owned => exact absurd rfl stored
    | quarantined => exact absurd rfl stored
    | _ => exact absurd isOpen stored
  · obtain ⟨isRun, phase⟩ := sound.terminals row member isOpen
    exact ⟨isRun, (frozen isOpen).2.trans phase⟩

end RowChange

namespace Sound

theorem moved (sound : Sound db) (member : row ∈ db.objects)
    (how : RowChange reopened db new row label after)
    (frozen : row.terminal ≠ none →
      after.terminal = row.terminal ∧ after.phase = row.phase)
    (objects :
      new.objects = db.moved row after.phase after.cleanup after.terminal) :
    Sound new where
  keys := by
    have sameKeys : (db.moved row after.phase after.cleanup after.terminal).map
            RuntimeObject.key =
          db.objects.map RuntimeObject.key :=
      Rows.map_modify fun other _ same => same.symm
    rw [objects, sameKeys]
    exact sound.keys
  resources := by
    intro version versionMember
    rw [objects] at versionMember
    rcases (Journal.mem_moved member).mp versionMember with
      shape | ⟨oldMember, _⟩
    · rw [shape]
      exact sound.resources row member
    · exact sound.resources version oldMember
  terminals := by
    intro version versionMember stored
    rw [objects] at versionMember
    rcases (Journal.mem_moved member).mp versionMember with
      shape | ⟨oldMember, _⟩
    · subst shape
      exact how.terminals sound member frozen stored
    · exact sound.terminals version oldMember stored

theorem change (sound : Sound old) (changed : Change reopened old new label) :
    Sound new := by
  have ofSame (objects : new.objects = old.objects) : Sound new :=
    ⟨objects ▸ sound.keys, objects ▸ sound.resources, objects ▸ sound.terminals⟩
  cases changed with
  | quiet label uncounted objects => exact ofSame objects
  | claimedCreate permit claims others objects => exact ofSame objects
  | claimedTargetStart provisioningUuid claims others objects =>
      exact ofSame objects
  | moved label row after member how frozen objects =>
      exact sound.moved member how frozen objects
  | inserted kind intent fingerprint absent resource targets enrolled objects =>
      constructor
      · rw [objects]
        exact Rows.nodup_append_new sound.keys (Journal.object?_none absent)
      · intro row member
        rw [objects] at member
        rcases List.mem_append.mp member with isOld | isNew
        · exact sound.resources row isOld
        · rw [List.mem_singleton.mp isNew]
          exact resource
      · intro row member stored
        rw [objects] at member
        rcases List.mem_append.mp member with isOld | isNew
        · exact sound.terminals row isOld stored
        · rw [List.mem_singleton.mp isNew] at stored
          exact absurd rfl stored

end Sound

/-- A later version of the row, which kept its terminal with the phase. -/
structure Persists (row later : RuntimeObject) : Prop where
  key : later.key = row.key
  intent : later.intent = row.intent
  frozen : row.terminal ≠ none →
    later.terminal = row.terminal ∧ later.phase = row.phase

namespace Persists

theorem refl (row : RuntimeObject) : Persists row row where
  key := rfl
  intent := rfl
  frozen := fun _ => ⟨rfl, rfl⟩

theorem trans {first second third : RuntimeObject}
    (early : Persists first second) (late : Persists second third) :
    Persists first third where
  key := late.key.trans early.key
  intent := late.intent.trans early.intent
  frozen := by
    intro stored
    obtain ⟨terminal, phase⟩ := early.frozen stored
    obtain ⟨lateTerminal, latePhase⟩ := late.frozen (terminal ▸ stored)
    exact ⟨lateTerminal.trans terminal, latePhase.trans phase⟩

end Persists

theorem Change.persists (changed : Change reopened old new label)
    (sound : Sound old) (member : row ∈ old.objects) :
    ∃ later ∈ new.objects, Persists row later := by
  cases changed with
  | quiet label uncounted objects => exact ⟨row, objects ▸ member, .refl row⟩
  | claimedCreate permit claims others objects =>
      exact ⟨row, objects ▸ member, .refl row⟩
  | claimedTargetStart provisioningUuid claims others objects =>
      exact ⟨row, objects ▸ member, .refl row⟩
  | inserted kind intent fingerprint absent resource targets enrolled objects =>
      exact ⟨row, objects ▸ List.mem_append_left _ member, .refl row⟩
  | moved label changing after changingMember how frozen objects =>
      by_cases same : row.key = changing.key
      · have isChanging := Rows.eq_of_key sound.keys member changingMember same
        refine
          ⟨Journal.movedRow changing after.phase after.cleanup after.terminal,
            ?_, ?_⟩
        · rw [objects]
          exact (Journal.mem_moved changingMember).mpr (.inl rfl)
        · rw [isChanging]
          exact ⟨rfl, rfl, frozen⟩
      · exact ⟨row, objects ▸
              (Journal.mem_moved changingMember).mpr (.inr ⟨member, same⟩),
            .refl row⟩

namespace System

theorem run_sound {permitted : System → Action → Prop} {first last : System}
    {actions : List Action} (sound : Sound first.journal)
    (run : Runs.Run step? permitted first actions last) :
    Sound last.journal ∧ ∀ row ∈ first.journal.objects,
        ∃ later ∈ last.journal.objects, Persists row later := by
  refine run.invariant (fun sys =>
      Sound sys.journal ∧ ∀ row ∈ first.journal.objects,
          ∃ later ∈ sys.journal.objects, Persists row later)
    ?_ ⟨sound, fun row member => ⟨row, member, .refl row⟩⟩
  rintro sys action next _ stepped ⟨stillSound, persists⟩
  obtain ⟨label, changed, _⟩ := step?_moves stepped
  refine ⟨stillSound.change changed, ?_⟩
  intro row member
  obtain ⟨version, versionMember, early⟩ := persists row member
  obtain ⟨later, laterMember, late⟩ := changed.persists stillSound versionMember
  exact ⟨later, laterMember, early.trans late⟩

end System

end TicketSandbox.Runtime
