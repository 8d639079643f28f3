import Mathlib.Data.List.Infix

namespace Crlf

/-!
# Lines and blocks

Byte strings whose lines are separated by a carriage return with a line feed,
and blocks that end with their first empty line.
-/

/-- A byte string. -/
abbrev Bytes := List UInt8

/-- `b'\r\n'`. -/
def lineEnd : Bytes :=
  [13, 10]

/-- `b'\r\n\r\n'`. -/
def blockEnd : Bytes :=
  [13, 10, 13, 10]

/-- `split(b'\r\n')`. -/
def split : Bytes → List Bytes
  | [] => [[]]
  | 13 :: 10 :: rest => [] :: split rest
  | byte :: rest =>
      match split rest with
      | [] => [[byte]]
      | line :: lines => (byte :: line) :: lines

/-- Lines with their ends between them. -/
def join : List Bytes → Bytes
  | [] => []
  | [line] => line
  | line :: second :: lines => line ++ lineEnd ++ join (second :: lines)

/-- The bytes are a line: they have no line end. -/
def IsLine (line : Bytes) : Prop :=
  split line = [line]

/-! ## Lines -/

theorem split_ne_nil (bytes : Bytes) : split bytes ≠ [] := by
  induction bytes using split.induct with
  | case1 => exact List.cons_ne_nil _ _
  | case2 rest _ => exact List.cons_ne_nil _ _
  | case3 byte rest notEnd _ _ =>
      unfold split
      split
      · exact List.cons_ne_nil _ _
      · exact List.cons_ne_nil _ _
      · split
        · exact List.cons_ne_nil _ _
        · exact List.cons_ne_nil _ _
  | case4 byte rest notEnd _ _ _ _ =>
      unfold split
      split
      · exact List.cons_ne_nil _ _
      · exact List.cons_ne_nil _ _
      · split
        · exact List.cons_ne_nil _ _
        · exact List.cons_ne_nil _ _

theorem split_cons {byte : UInt8} {rest line : Bytes} {lines : List Bytes}
    (notEnd : ∀ tail, byte = 13 → rest ≠ 10 :: tail)
    (isSplit : split rest = line :: lines) :
    split (byte :: rest) = (byte :: line) :: lines := by
  rw [split, isSplit]
  intro tail isReturn isFeed
  exact notEnd tail isReturn isFeed

theorem split_append (first second : Bytes) :
    split (first ++ lineEnd ++ second) = split first ++ split second := by
  induction first using split.induct with
  | case1 => rfl
  | case2 rest inductionHypothesis =>
      change [] :: split (rest ++ lineEnd ++ second) = _
      rw [inductionHypothesis]
      rfl
  | case3 byte rest notEnd none _ => exact (split_ne_nil rest none).elim
  | case4 byte rest notEnd line lines isSplit inductionHypothesis =>
      have isFirst : split (rest ++ lineEnd ++ second) =
            line :: (lines ++ split second) := by
        rw [inductionHypothesis, isSplit]
        rfl
      have notEnd : ∀ tail, byte = 13 → rest ≠ 10 :: tail :=
        fun tail isReturn isFeed => notEnd tail isReturn isFeed
      have notLater :
          ∀ tail, byte = 13 → rest ++ lineEnd ++ second ≠ 10 :: tail := by
        intro tail isReturn isFeed
        cases rest with
        | nil => cases isFeed
        | cons next others =>
            exact notEnd others isReturn
              (congrArg (· :: others) (List.cons.inj isFeed).1)
      rw [List.cons_append, List.cons_append, split_cons notLater isFirst,
        split_cons notEnd isSplit]
      rfl

theorem join_split (bytes : Bytes) : join (split bytes) = bytes := by
  induction bytes using split.induct with
  | case1 => rfl
  | case2 rest inductionHypothesis =>
      rw [split]
      cases isSplit : split rest with
      | nil => exact (split_ne_nil rest isSplit).elim
      | cons line lines =>
          rw [join, ← isSplit, inductionHypothesis]
          rfl
  | case3 byte rest notEnd none _ => exact (split_ne_nil rest none).elim
  | case4 byte rest notEnd line lines isSplit inductionHypothesis =>
      rw [split_cons
        (fun tail isReturn isFeed => notEnd tail isReturn isFeed) isSplit]
      rw [isSplit] at inductionHypothesis
      cases lines with
      | nil => exact congrArg (byte :: ·) inductionHypothesis
      | cons second others => exact congrArg (byte :: ·) inductionHypothesis

/-- Lines that are joined are split again. -/
theorem split_join {lines : List Bytes} (nonempty : lines ≠ [])
    (areLines : ∀ line ∈ lines, IsLine line) :
    split (join lines) = lines := by
  induction lines with
  | nil => exact (nonempty rfl).elim
  | cons line others inductionHypothesis =>
      have isLine := areLines line List.mem_cons_self
      cases others with
      | nil => exact isLine
      | cons second others =>
          have later :=
            inductionHypothesis (List.cons_ne_nil _ _) fun other member =>
              areLines other (List.mem_cons_of_mem _ member)
          rw [join, split_append, later, isLine]
          rfl

variable {bytes : Bytes}

theorem isLine_of_mem
    {line : Bytes} (member : line ∈ split bytes) : IsLine line := by
  induction bytes using split.induct generalizing line with
  | case1 =>
      rw [List.mem_singleton.mp member]
      rfl
  | case2 rest inductionHypothesis =>
      rcases List.mem_cons.mp member with rfl | later
      · rfl
      · exact inductionHypothesis later
  | case3 byte rest notEnd none _ => exact (split_ne_nil rest none).elim
  | case4 byte rest notEnd first lines isSplit inductionHypothesis =>
      have notEnd : ∀ tail, byte = 13 → rest ≠ 10 :: tail :=
        fun tail isReturn isFeed => notEnd tail isReturn isFeed
      rw [split_cons notEnd isSplit] at member
      rw [isSplit] at inductionHypothesis
      rcases List.mem_cons.mp member with rfl | later
      · refine split_cons ?_ (inductionHypothesis List.mem_cons_self)
        intro tail isReturn isFeed
        have made := join_split rest
        rw [isSplit, isFeed] at made
        cases lines with
        | nil => exact notEnd tail isReturn made.symm
        | cons second others => exact notEnd _ isReturn made.symm
      · exact inductionHypothesis (List.mem_cons_of_mem _ later)

theorem isLine_of_not_mem
    {line : Bytes} (noReturn : 13 ∉ line) : IsLine line := by
  induction line with
  | nil => rfl
  | cons byte rest inductionHypothesis =>
      have isRest := inductionHypothesis fun member =>
          noReturn (List.mem_cons_of_mem _ member)
      refine split_cons ?_ isRest
      intro _ isReturn
      rw [isReturn] at noReturn
      exact (noReturn List.mem_cons_self).elim

/-! ## Blocks -/

/-- The bytes end with their first empty line. -/
structure IsBlock (block : Bytes) : Prop where
  ends : blockEnd <:+ block
  first : ∀ earlier, earlier <+: block → earlier ≠ block →
    ¬ blockEnd <:+: earlier

theorem IsBlock.unique
    {first second : Bytes} (isFirst : IsBlock first) (isSecond : IsBlock second)
    (firstPrefix : first <+: bytes) (secondPrefix : second <+: bytes) :
    first = second := by
  by_contra differs
  rcases List.prefix_or_prefix_of_prefix firstPrefix secondPrefix with
    shorter | shorter
  · exact isSecond.first first shorter differs isFirst.ends.isInfix
  · exact isFirst.first second shorter (Ne.symm differs) isSecond.ends.isInfix

/-- Lines before an empty one are a block. -/
theorem isBlock_of_lines {lines : List Bytes} (nonempty : lines ≠ [])
    (areLines : ∀ line ∈ lines, IsLine line ∧ line ≠ []) :
    IsBlock (join lines ++ blockEnd) where
  ends := List.suffix_append _ _
  first := by
    rintro earlier ⟨behind, isBlock⟩ differs ⟨before, between, isEarlier⟩
    have isSplit : split (join lines) = lines :=
      split_join nonempty fun line member => (areLines line member).1
    have whole : split (join lines ++ blockEnd) = lines ++ [[], []] := by
      have shape :
          join lines ++ blockEnd = join lines ++ lineEnd ++ lineEnd := by
        rw [List.append_assoc]
        rfl
      rw [shape, ← List.append_nil (join lines ++ lineEnd ++ lineEnd),
        List.append_assoc (join lines ++ lineEnd), split_append, isSplit]
      rfl
    have parts : split (join lines ++ blockEnd) =
          split before ++ [] :: split (between ++ behind) := by
      have shape : join lines ++ blockEnd =
            before ++ lineEnd ++ (lineEnd ++ (between ++ behind)) := by
        rw [← isBlock, ← isEarlier]
        simp only [blockEnd, lineEnd, List.append_assoc, List.cons_append,
          List.nil_append]
      rw [shape, split_append]
      rfl
    have behindNonempty : behind ≠ [] := by
      rintro rfl
      exact differs (by rw [← isBlock, List.append_nil])
    have same := whole.symm.trans parts
    have lengths := congrArg List.length same
    have rest := List.length_pos_iff.mpr (split_ne_nil (between ++ behind))
    simp only [List.length_append, List.length_cons, List.length_nil] at lengths
    have notEarlier : lines.length ≤ (split before).length := by
      by_contra earlier
      have inside : (split before).length < lines.length := by
        omega
      have isEmpty : (lines ++ [[], []])[(split before).length]? = some [] := by
        rw [same, List.getElem?_append_right (Nat.le_refl _), Nat.sub_self]
        rfl
      rw [List.getElem?_append_left inside] at isEmpty
      exact (areLines [] (List.mem_of_getElem? isEmpty)).2 rfl
    have last : (split (between ++ behind)).length = 1 := by
      omega
    obtain ⟨line, isLast⟩ := List.length_eq_one_iff.mp last
    have counted : lines.length = (split before).length := by
      omega
    have tails := (List.append_inj same counted).2
    rw [isLast] at tails
    have isEmpty : line = [] := by
      simpa using tails.symm
    have made := join_split (between ++ behind)
    rw [isLast, isEmpty] at made
    exact behindNonempty (List.append_eq_nil_iff.mp made.symm).2

theorem IsBlock.lines {block : Bytes} (isBlock : IsBlock block) :
    block = join (split (block.take (block.length - 4))) ++ blockEnd := by
  obtain ⟨front, rfl⟩ := isBlock.ends
  have isFront :
      (front ++ blockEnd).take ((front ++ blockEnd).length - 4) = front := by
    have sized : (front ++ blockEnd).length - 4 = front.length := by
      rw [List.length_append]
      rfl
    rw [sized, List.take_left]
  rw [isFront, join_split]

/-- A block is over at its first empty line. -/
theorem isBlock_concat {byte : UInt8} (noEnd : ¬ blockEnd <:+: bytes)
    (isEnd : blockEnd <:+: bytes ++ [byte]) :
    IsBlock (bytes ++ [byte]) where
  ends := by
    rcases List.infix_concat_iff.mp isEnd with ends | earlier
    · exact ends
    · exact (noEnd earlier).elim
  first := by
    intro earlier isPrefix differs isInfix
    rcases List.prefix_concat_iff.mp isPrefix with same | shorter
    · exact differs same
    · exact noEnd (isInfix.trans shorter.isInfix)

end Crlf
