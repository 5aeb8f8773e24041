import Itineraries.Json.Reader
import Itineraries.Proofs.Spelling

namespace Itineraries
namespace Json

/-!
# Documents read as they are written

The machine that reads a document has the containers that are open on a stack.  While it
reads what has been written of one value, it works above the frames that were there
before, and in the end it has completed that value over the same frames.  This is said
of every state in which a value may come, so that the induction over the document goes
through the first items of arrays as through all others.  It is said of every layout that
puts nothing but spaces between tokens, since the machine passes over these.
-/

namespace Value

mutual

/-- Whether all numbers of a document are spelt as the grammar demands. -/
def IsStrict : Value → Prop
  | number numeral => numeral.IsStrict
  | array items => AreStrict items
  | object members => HaveStrict members
  | null | bool _ | string _ => True

/-- Whether this holds of all items of an array. -/
def AreStrict : List Value → Prop
  | [] => True
  | item :: items => item.IsStrict ∧ AreStrict items

/-- Whether this holds of the values of all members of an object. -/
def HaveStrict : List (Literal × Value) → Prop
  | [] => True
  | (_, value) :: members => value.IsStrict ∧ HaveStrict members

end

theorem areStrict_of_forall {items : List Value} (strict : ∀ item ∈ items, item.IsStrict) :
    AreStrict items := by
  induction items with
  | nil => exact trivial
  | cons item items inductionHypothesis =>
    exact ⟨strict item List.mem_cons_self,
      inductionHypothesis fun later member => strict later (List.mem_cons_of_mem _ member)⟩

end Value

structure Layout.IsBlank (layout : Layout) : Prop where
  gap : ∀ depth, ∀ character ∈ layout.gap depth, isSpace character = true
  space : ∀ character ∈ layout.space, isSpace character = true

theorem Layout.isBlank_compact : compact.IsBlank where
  gap _ := nofun
  space := nofun

namespace ReaderState

/-- The machine takes the token at the front of a text that starts with no space. -/
theorem readAll?_token {state next : ReaderState} {first : Char} {behind rest : List Char}
    {token : Token} (visible : isSpace first = false)
    (taken : Token.take? (first :: behind) = some (token, rest))
    (stepped : state.step? token = some next) :
    state.readAll? (first :: behind) = next.readAll? rest := by
  have kept : (first :: behind).dropWhile isSpace = first :: behind :=
    List.dropWhile_cons_of_neg (ne_true_of_eq_false visible)
  rw [readAll?]
  split
  · rename_i empty
    cases empty.symm.trans kept
  · rename_i other after sought
    rw [kept, List.cons.injEq] at sought
    rcases sought with ⟨rfl, rfl⟩
    split
    · rename_i untaken
      cases untaken.symm.trans taken
    · rename_i read remains taken'
      rcases Option.some.inj (taken'.symm.trans taken) with ⟨rfl, rfl⟩
      split
      · rename_i stuck
        cases stuck.symm.trans stepped
      · rename_i later moved
        rcases Option.some.inj (moved.symm.trans stepped) with rfl
        rfl

/-- Spaces in front of a token or behind the last are passed over. -/
theorem readAll?_spaces (state : ReaderState) {spaces : List Char}
    (blank : ∀ character ∈ spaces, isSpace character = true) (rest : List Char) :
    state.readAll? (spaces ++ rest) = state.readAll? rest := by
  rw [readAll?, readAll?.eq_1 state rest, List.dropWhile_append_of_pos blank]

theorem readAll?_of_spaces (state : ReaderState) {spaces : List Char}
    (blank : ∀ character ∈ spaces, isSpace character = true) :
    state.readAll? spaces = some state := by
  rw [← List.append_nil spaces, readAll?_spaces state blank, readAll?]
  rfl

/-- Whether a value may come above these frames. -/
def AwaitsValue (state : ReaderState) (frames : List Frame) : Prop :=
  ∀ token, (∀ frames, beginValue? frames token ≠ none) →
    state.step? token = beginValue? frames token

/-- Whether a key may come behind these members. -/
def AwaitsKey (state : ReaderState) (members : List (Literal × Value)) (frames : List Frame) :
    Prop :=
  ∀ key, state.step? (.literal key) = some (colon members key frames)

theorem awaitsValue_value (frames : List Frame) : (value frames).AwaitsValue frames :=
  fun _ _ => rfl

theorem awaitsValue_firstItem (frames : List Frame) :
    (firstItem frames).AwaitsValue (.array [] :: frames) := by
  intro token begins
  cases token with
  | endArray => exact absurd rfl (begins [])
  | _ => rfl

theorem awaitsKey_firstKey (frames : List Frame) : (firstKey frames).AwaitsKey [] frames :=
  fun _ => rfl

theorem awaitsKey_nextKey (members : List (Literal × Value)) (frames : List Frame) :
    (nextKey members frames).AwaitsKey members frames :=
  fun _ => rfl

theorem readAll?_literal {state next : ReaderState} {literal : Literal}
    (stepped : state.step? (.literal literal) = some next) (rest : List Char) :
    state.readAll? (writeLiteral literal ++ rest) = next.readAll? rest := by
  have taken := Token.take?_writeLiteral literal rest
  have quoted : ∃ behind, writeLiteral literal ++ rest = '"' :: behind := by
    cases literal with
    | none => exact ⟨_, rfl⟩
    | some text => exact ⟨_, rfl⟩
  rcases quoted with ⟨behind, quoted⟩
  rw [quoted] at taken ⊢
  exact readAll?_token rfl taken stepped

theorem readAll?_numeral {state next : ReaderState} {numeral : Numeral}
    (strict : numeral.IsStrict) (stepped : state.step? (.scalar (.number numeral)) = some next)
    {rest : List Char} (delimited : IsDelimited rest) :
    state.readAll? (numeral.write ++ rest) = next.readAll? rest := by
  have taken := Token.take?_writeNumeral strict delimited
  rcases Numeral.exists_write_eq_cons strict with ⟨first, behind, written, start⟩
  have visible : isSpace first = false := by
    rcases start with rfl | ⟨digit, rfl⟩
    · rfl
    · exact digit.isSpace_toChar
  rw [written, List.cons_append] at taken ⊢
  exact readAll?_token visible taken stepped

/-- A key with its colon makes room for its value. -/
theorem readAll?_key {state : ReaderState} {members : List (Literal × Value)}
    {frames : List Frame} (awaits : state.AwaitsKey members frames) (key : Literal)
    (rest : List Char) :
    state.readAll? (writeLiteral key ++ ':' :: rest) =
      (value (.object members key :: frames)).readAll? rest := by
  rw [readAll?_literal (awaits key)]
  exact readAll?_token rfl rfl rfl

section

variable {layout : Layout} (blank : layout.IsBlank)

include blank

mutual

theorem readAll?_write {state : ReaderState} {frames : List Frame} {document : Value}
    (strict : document.IsStrict) (awaits : state.AwaitsValue frames) (depth : Nat)
    {rest : List Char} (delimited : IsDelimited rest) :
    state.readAll? (document.write layout depth ++ rest) =
      (complete document frames).readAll? rest := by
  cases document with
  | null => exact readAll?_token rfl rfl (awaits _ nofun)
  | bool truth =>
    cases truth with
    | false => exact readAll?_token rfl rfl (awaits _ nofun)
    | true => exact readAll?_token rfl rfl (awaits _ nofun)
  | number numeral => exact readAll?_numeral strict (awaits _ nofun) delimited
  | string literal => exact readAll?_literal (awaits _ nofun) rest
  | array items =>
    have begun := awaits .beginArray nofun
    cases items with
    | nil => exact (readAll?_token rfl rfl begun).trans (readAll?_token rfl rfl rfl)
    | cons item items =>
      rw [Value.write, List.append_assoc, List.append_assoc, List.cons_append,
        readAll?_token rfl rfl begun]
      · exact readAll?_writeItems (List.cons_ne_nil item items) strict
          (awaitsValue_firstItem frames) (depth + 1) (blank.gap depth) rest
      · nofun
  | object members =>
    have begun := awaits .beginObject nofun
    cases members with
    | nil => exact (readAll?_token rfl rfl begun).trans (readAll?_token rfl rfl rfl)
    | cons member members =>
      rw [Value.write, List.append_assoc, List.append_assoc, List.cons_append,
        readAll?_token rfl rfl begun]
      · exact readAll?_writeMembers (List.cons_ne_nil member members) strict
          (awaitsKey_firstKey frames) (depth + 1) (blank.gap depth) rest
      · nofun

theorem readAll?_writeItems {state : ReaderState} {done items : List Value}
    {frames : List Frame} (some_items : items ≠ []) (strict : Value.AreStrict items)
    (awaits : state.AwaitsValue (.array done :: frames)) (depth : Nat) {gap : List Char}
    (closing : ∀ character ∈ gap, isSpace character = true) (rest : List Char) :
    state.readAll? (Value.writeItems layout depth items ++ (gap ++ ']' :: rest)) =
      (complete (.array (done.reverse ++ items)) frames).readAll? rest := by
  cases items with
  | nil => exact absurd rfl some_items
  | cons item items =>
    cases items with
    | nil =>
      rw [Value.writeItems, List.append_assoc, readAll?_spaces _ (blank.gap depth),
        readAll?_write strict.1 awaits depth (.append closing (.cons (by decide) rest)),
        readAll?_spaces _ closing, readAll?_token rfl rfl rfl, List.reverse_cons]
    | cons next items =>
      rw [Value.writeItems, List.append_assoc, List.append_assoc, List.cons_append,
        readAll?_spaces _ (blank.gap depth),
        readAll?_write strict.1 awaits depth (.cons (by decide) _), readAll?_token rfl rfl rfl,
        readAll?_writeItems (List.cons_ne_nil next items) strict.2
          (awaitsValue_value (.array (item :: done) :: frames)) depth closing,
        List.reverse_cons, List.append_assoc]
      · rfl
      · nofun

theorem readAll?_writeMembers {state : ReaderState} {done members : List (Literal × Value)}
    {frames : List Frame} (some_members : members ≠ []) (strict : Value.HaveStrict members)
    (awaits : state.AwaitsKey done frames) (depth : Nat) {gap : List Char}
    (closing : ∀ character ∈ gap, isSpace character = true) (rest : List Char) :
    state.readAll? (Value.writeMembers layout depth members ++ (gap ++ '}' :: rest)) =
      (complete (.object (done.reverse ++ members)) frames).readAll? rest := by
  cases members with
  | nil => exact absurd rfl some_members
  | cons member members =>
    rcases member with ⟨key, item⟩
    cases members with
    | nil =>
      simp only [Value.writeMembers, List.append_assoc, List.cons_append]
      rw [readAll?_spaces _ (blank.gap depth), readAll?_key awaits, readAll?_spaces _ blank.space,
        readAll?_write strict.1 (awaitsValue_value _) depth
          (.append closing (.cons (by decide) rest)),
        readAll?_spaces _ closing, readAll?_token rfl rfl rfl, List.reverse_cons]
    | cons next members =>
      rw [Value.writeMembers]
      · simp only [List.append_assoc, List.cons_append]
        rw [readAll?_spaces _ (blank.gap depth), readAll?_key awaits,
          readAll?_spaces _ blank.space,
          readAll?_write strict.1 (awaitsValue_value _) depth (.cons (by decide) _),
          readAll?_token rfl rfl rfl,
          readAll?_writeMembers (List.cons_ne_nil next members) strict.2
            (awaitsKey_nextKey ((key, item) :: done) frames) depth closing,
          List.reverse_cons, List.append_assoc]
        rfl
      · nofun

end

end

end ReaderState

/-- A document whose numbers are spelt as they should be is read as it was written, whatever
spaces stand between its tokens and behind its end. -/
theorem Value.read?_write {document : Value} (strict : document.IsStrict) {layout : Layout}
    (blank : layout.IsBlank) {behind : List Char}
    (spaces : ∀ character ∈ behind, isSpace character = true) :
    read? (String.ofList (document.write layout 0 ++ behind)) = some document := by
  have taken := ReaderState.readAll?_write blank strict (ReaderState.awaitsValue_value []) 0
    (.append spaces .nil)
  rw [List.append_nil] at taken
  rw [read?, String.toList_ofList, taken, ReaderState.readAll?_of_spaces _ spaces]
  rfl

theorem Value.read?_render {document : Value} (strict : document.IsStrict) :
    read? document.render = some document := by
  have taken : read? (String.ofList (document.write .compact 0 ++ [])) = some document :=
    read?_write strict Layout.isBlank_compact nofun
  rw [List.append_nil] at taken
  exact taken

end Json
end Itineraries
