import Itineraries.CommandLine
import Itineraries.Proofs.InventoryFiles

namespace Itineraries

/-!
# Documents on their lines

The indented form is told here by its lines, from the outside in.  The lines of a container
are its opening bracket, all lines of what it holds two columns further in, and its closing
bracket.  A key stands in front of the first line of its value and a comma behind the last
one.  Both are handed down to the value, so a line is finished as soon as it is there.

The writer goes the other way.  It carries the depth with it and puts a newline with so many
columns in front of each item, and it never sees a line as a whole.  The two agree line by
line, since what is further in is further in by two columns for every container around it.
And these are the lines that a reader of the text sees, because a newline in a literal is
escaped.
-/

namespace Json

/-! ## No newline within a line -/

theorem newline_notMem_writeDigits (digits : List Digit) : '\n' ∉ writeDigits digits := by
  intro found
  rcases List.mem_map.mp found with ⟨digit, _, same⟩
  exact absurd (congrArg isSpace same) (ne_of_eq_of_ne digit.isSpace_toChar (by decide))

theorem newline_notMem_writeExponent (exponent : Option Exponent) :
    '\n' ∉ writeExponent exponent := by
  cases exponent with
  | none => exact List.not_mem_nil
  | some exponent =>
    refine List.not_mem_cons_of_ne_of_not_mem (by decide) ?_
    refine List.not_mem_cons_of_ne_of_not_mem ?_ (newline_notMem_writeDigits _)
    split <;> decide

theorem newline_notMem_write_numeral (numeral : Numeral) : '\n' ∉ numeral.write := by
  have sign : '\n' ∉ if numeral.negative then ['-'] else [] := by
    split <;> decide
  have fraction : '\n' ∉ writeFraction numeral.fraction := by
    unfold writeFraction
    split
    · exact List.not_mem_nil
    · exact List.not_mem_cons_of_ne_of_not_mem (by decide) (newline_notMem_writeDigits _)
  rw [Numeral.write_eq]
  simp only [List.mem_append, not_or]
  exact ⟨sign, newline_notMem_writeDigits _, fraction, newline_notMem_writeExponent _⟩

theorem hexDigit_ne_newline {number : Nat} (digit : number < 16) : hexDigit number ≠ '\n' := by
  interval_cases number <;> decide

/-- A newline in a text is escaped like the other controls. -/
theorem newline_notMem_escape (character : Char) : '\n' ∉ escape character := by
  unfold escape
  split
  case h_8 _ _ _ _ other _ _ =>
    split
    · rename_i control
      have high : hexDigit (character.toNat / 16) ≠ '\n' := hexDigit_ne_newline (by omega)
      have low : hexDigit (character.toNat % 16) ≠ '\n' := hexDigit_ne_newline (by omega)
      simp [high.symm, low.symm]
    · exact fun found => other (List.mem_singleton.mp found).symm
  all_goals decide

theorem newline_notMem_writeLiteral (literal : Literal) : '\n' ∉ writeLiteral literal := by
  cases literal with
  | none => decide
  | some text =>
    simp only [writeLiteral, List.cons_append, List.mem_cons, List.mem_append,
      List.mem_flatMap, not_or]
    refine ⟨by decide, ?_, by decide⟩
    rintro ⟨character, _, found⟩
    exact newline_notMem_escape character found

namespace Value

/-! ## The lines of a document -/

/-- The lines of a container: all that it holds stands two columns further in than its
brackets. -/
def enclose (first last : List Char) (inner : List (List Char)) : List (List Char) :=
  first :: inner.map (' ' :: ' ' :: ·) ++ [last]

mutual

/-- The lines of a document, with something in front of the first and behind the last. -/
def lines (front back : List Char) : Value → List (List Char)
  | array [] => [front ++ ['[', ']'] ++ back]
  | array items => enclose (front ++ ['[']) (']' :: back) (itemLines items)
  | object [] => [front ++ ['{', '}'] ++ back]
  | object members => enclose (front ++ ['{']) ('}' :: back) (memberLines members)
  | scalar => [front ++ scalar.write .compact 0 ++ back]

def itemLines : List Value → List (List Char)
  | [] => []
  | [item] => item.lines [] []
  | item :: items => item.lines [] [','] ++ itemLines items

def memberLines : List (Literal × Value) → List (List Char)
  | [] => []
  | [(key, value)] => value.lines (writeLiteral key ++ [':', ' ']) []
  | (key, value) :: members =>
    value.lines (writeLiteral key ++ [':', ' ']) [','] ++ memberLines members

end

/-- Two columns more are the gap of one level more. -/
private theorem gap_succ (depth : Nat) (line : List Char) :
    Layout.indented.gap depth ++ ' ' :: ' ' :: line = Layout.indented.gap (depth + 1) ++ line := by
  have columns : List.replicate (2 * (depth + 1)) ' ' =
      List.replicate (2 * depth) ' ' ++ [' ', ' '] := List.replicate_add ..
  simp only [Layout.indented, columns, List.cons_append, List.append_assoc, List.nil_append]

theorem flatMap_enclose (depth : Nat) (first last : List Char) (inner : List (List Char)) :
    (enclose first last inner).flatMap (Layout.indented.gap depth ++ ·) =
      Layout.indented.gap depth ++ first ++
        inner.flatMap (Layout.indented.gap (depth + 1) ++ ·) ++
          Layout.indented.gap depth ++ last := by
  have deeper : (inner.map (' ' :: ' ' :: ·)).flatMap (Layout.indented.gap depth ++ ·) =
      inner.flatMap (Layout.indented.gap (depth + 1) ++ ·) := by
    rw [List.flatMap_map]
    exact List.flatMap_congr fun line _ => gap_succ depth line
  rw [enclose, List.flatMap_append, List.flatMap_cons, List.flatMap_singleton, deeper,
    ← List.append_assoc]

theorem newline_notMem_enclose {first last : List Char} {inner : List (List Char)}
    (opens : '\n' ∉ first) (closes : '\n' ∉ last) (holds : ∀ line ∈ inner, '\n' ∉ line) :
    ∀ line ∈ enclose first last inner, '\n' ∉ line := by
  intro line found
  rcases List.mem_append.mp found with listed | closing
  · rcases List.mem_cons.mp listed with rfl | nested
    · exact opens
    · rcases List.mem_map.mp nested with ⟨line, member, rfl⟩
      simp only [List.mem_cons, not_or]
      exact ⟨by decide, by decide, holds line member⟩
  · rw [List.mem_singleton.mp closing]
    exact closes

mutual

/-- A document is written as its lines, each behind the gap of its depth. -/
theorem flatMap_lines (depth : Nat) (front back : List Char) (document : Value) :
    (document.lines front back).flatMap (Layout.indented.gap depth ++ ·) =
      Layout.indented.gap depth ++ front ++ document.write .indented depth ++ back := by
  cases document with
  | array items =>
    cases items with
    | nil => simp [lines, write]
    | cons item items =>
      rw [lines, write, flatMap_enclose, flatMap_itemLines (depth + 1) (item :: items)]
      · simp only [List.append_assoc, List.cons_append, List.nil_append]
      all_goals nofun
  | object members =>
    cases members with
    | nil => simp [lines, write]
    | cons member members =>
      rw [lines, write, flatMap_enclose, flatMap_memberLines (depth + 1) (member :: members)]
      · simp only [List.append_assoc, List.cons_append, List.nil_append]
      all_goals nofun
  | bool truth => cases truth <;> simp [lines, write]
  | _ => simp [lines, write]

theorem flatMap_itemLines (depth : Nat) (items : List Value) :
    (itemLines items).flatMap (Layout.indented.gap depth ++ ·) =
      writeItems .indented depth items := by
  cases items with
  | nil => rfl
  | cons item items =>
    cases items with
    | nil =>
      rw [itemLines, writeItems, flatMap_lines, List.append_nil, List.append_nil]
    | cons next items =>
      rw [itemLines, writeItems, List.flatMap_append, flatMap_lines,
        flatMap_itemLines depth (next :: items)]
      · simp only [List.append_assoc, List.nil_append, List.cons_append]
      all_goals nofun

theorem flatMap_memberLines (depth : Nat) (members : List (Literal × Value)) :
    (memberLines members).flatMap (Layout.indented.gap depth ++ ·) =
      writeMembers .indented depth members := by
  cases members with
  | nil => rfl
  | cons member members =>
    rcases member with ⟨key, item⟩
    cases members with
    | nil =>
      rw [memberLines, writeMembers, flatMap_lines]
      simp only [Layout.indented, List.append_assoc, List.append_nil, List.cons_append,
        List.nil_append]
    | cons next members =>
      rw [memberLines, writeMembers, List.flatMap_append, flatMap_lines,
        flatMap_memberLines depth (next :: members)]
      · simp only [Layout.indented, List.append_assoc, List.cons_append, List.nil_append]
      all_goals nofun

end

mutual

theorem newline_notMem_lines {front back : List Char} (before : '\n' ∉ front)
    (behind : '\n' ∉ back) (document : Value) :
    ∀ line ∈ document.lines front back, '\n' ∉ line := by
  have single : ∀ middle : List Char, '\n' ∉ middle →
      ∀ line ∈ [front ++ middle ++ back], '\n' ∉ line := by
    intro middle clean line found
    rw [List.mem_singleton.mp found]
    simp only [List.mem_append, not_or]
    exact ⟨⟨before, clean⟩, behind⟩
  have opens : ∀ bracket, '\n' ≠ bracket → '\n' ∉ front ++ [bracket] := by
    intro bracket other
    simp only [List.mem_append, List.mem_singleton, not_or]
    exact ⟨before, other⟩
  cases document with
  | null => exact single _ (by decide)
  | bool truth => cases truth <;> exact single _ (by decide)
  | number numeral => exact single _ (newline_notMem_write_numeral numeral)
  | string literal => exact single _ (newline_notMem_writeLiteral literal)
  | array items =>
    cases items with
    | nil => exact single _ (by decide)
    | cons item items =>
      rw [lines]
      · exact newline_notMem_enclose (opens '[' (by decide))
          (List.not_mem_cons_of_ne_of_not_mem (by decide) behind)
          (newline_notMem_itemLines (item :: items))
      · nofun
  | object members =>
    cases members with
    | nil => exact single _ (by decide)
    | cons member members =>
      rw [lines]
      · exact newline_notMem_enclose (opens '{' (by decide))
          (List.not_mem_cons_of_ne_of_not_mem (by decide) behind)
          (newline_notMem_memberLines (member :: members))
      · nofun

theorem newline_notMem_itemLines (items : List Value) : ∀ line ∈ itemLines items, '\n' ∉ line := by
  cases items with
  | nil => exact nofun
  | cons item items =>
    cases items with
    | nil => exact newline_notMem_lines List.not_mem_nil List.not_mem_nil item
    | cons next items =>
      rw [itemLines]
      · intro line found
        rcases List.mem_append.mp found with first | later
        · exact newline_notMem_lines List.not_mem_nil (by decide) item line first
        · exact newline_notMem_itemLines (next :: items) line later
      · nofun

theorem newline_notMem_memberLines (members : List (Literal × Value)) :
    ∀ line ∈ memberLines members, '\n' ∉ line := by
  have named : ∀ key, '\n' ∉ writeLiteral key ++ [':', ' '] := fun key found =>
    (List.mem_append.mp found).elim (newline_notMem_writeLiteral key) (by decide)
  cases members with
  | nil => exact nofun
  | cons member members =>
    rcases member with ⟨key, item⟩
    cases members with
    | nil => exact newline_notMem_lines (named key) List.not_mem_nil item
    | cons next members =>
      rw [memberLines]
      · intro line found
        rcases List.mem_append.mp found with first | later
        · exact newline_notMem_lines (named key) (by decide) item line first
        · exact newline_notMem_memberLines (next :: members) line later
      · nofun

end

/-! ## A printed document -/

end Value
end Json

/-! ## Printed itineraries -/

/-- Whatever an itinerary holds, its numbers are spelt as they should be: a price that is no
finite number is printed as null. -/
theorem Itinerary.isStrict_toJson (itinerary : Itinerary) : itinerary.toJson.IsStrict :=
  ⟨trivial, Flight.isStrict_listToJson itinerary.legs, itinerary.price.isStrict_toJson,
    Json.Numeral.isStrict_ofInt _, Json.Numeral.isStrict_ofInt _, Json.Numeral.isStrict_ofInt _,
    trivial, trivial, trivial⟩

end Itineraries
