import Mathlib.Data.List.Forall2
import Itineraries.Inventory
import Itineraries.Proofs.Documents
import Itineraries.Proofs.Prices
import Itineraries.Proofs.Reordering
import Itineraries.Proofs.Timestamps

namespace Itineraries

/-!
# Inventories that are written to a file

A list of flights is a document that is read as it was written, so what a file says of a
flight is what its fields are decoded from.  Texts, times and seats decode to themselves.
A price decodes to a price that is left of it, which may be another one.
-/

/-! ## Records -/

namespace Json
namespace Value

/-- An object with all the fields of a record is that record. -/
theorem record?_ofMembers {names : List String} {members : List (String × Value)}
    (all : members.map (·.1) = names) (distinct : names.Nodup) :
    (ofMembers members).record? names = some members := by
  have readable : (members.map fun member => ((some member.1 : Literal), member.2)).mapM
      (fun member => member.1.map (·, member.2)) = some members := by
    rw [List.mapM_map]
    exact List.mapM_pure.trans (congrArg some (List.map_id members))
  have known : members.filter (fun member => names.contains member.1) = members := by
    refine List.filter_eq_self.mpr fun member found => List.contains_iff_mem.mpr ?_
    rw [← all]
    exact List.mem_map_of_mem found
  rw [ofMembers, record?, readable]
  simp only [Option.bind_eq_bind, Option.bind_some, known, all, if_pos distinct]

theorem required?_of_lookup {α : Type} {record : Record} {name : String} {value : Value}
    (listed : record.lookup name = some value) (decode : Value → Option α) :
    record.required? name decode = decode value := by
  rw [Record.required?, listed, Option.bind_some]

theorem text?_ofString (text : String) : (ofString text).text? = some text :=
  rfl

theorem signed?_ofInt {number : ℤ}
    (fits : -0x8000000000000000 ≤ number ∧ number < 0x8000000000000000) :
    (ofInt number).signed? = some number := by
  rw [ofInt, signed?, Numeral.integer?_ofInt, Option.bind_some, if_pos fits]

end Value
end Json

/-! ## Flights -/

/-- What is no finite number is no numeral either. -/
theorem Price.isStrict_toJson (price : Price) : price.toJson.IsStrict := by
  by_cases finite : price.isFinite = true
  · rw [toJson_eq finite]
    exact isStrict_numeral finite
  · rw [toJson, if_neg finite]
    trivial

namespace Flight

/-- What the types of a flight's fields ask for: seats that fit in sixty-four bits, and a
price that is a number. -/
structure IsWritable (flight : Flight) : Prop where
  seats : -0x8000000000000000 ≤ flight.availableSeats ∧
    flight.availableSeats < 0x8000000000000000
  price : flight.price.isFinite = true

/-- What of a flight is left when it is written and read again: all of it, and of the price
what is left of a price. -/
structure IsReadAs (written read : Flight) : Prop where
  fields : read = { written with price := read.price }
  price : written.price.IsReadAs read.price

theorem isStrict_toJson (flight : Flight) : flight.toJson.IsStrict :=
  ⟨trivial, trivial, trivial, trivial, trivial, flight.price.isStrict_toJson,
    Json.Numeral.isStrict_ofInt flight.availableSeats, trivial⟩

theorem isStrict_listToJson (flights : List Flight) : (listToJson flights).IsStrict := by
  refine Json.Value.areStrict_of_forall fun item found => ?_
  rcases List.mem_map.mp found with ⟨flight, _, rfl⟩
  exact flight.isStrict_toJson

/-- A flight decodes to itself, but for the price. -/
theorem ofJson?_toJson {flight : Flight} {price : Price}
    (seats : -0x8000000000000000 ≤ flight.availableSeats ∧
      flight.availableSeats < 0x8000000000000000)
    (loaded : Price.ofJson? flight.price.toJson = some price) :
    ofJson? flight.toJson = some { flight with price := price } := by
  have record : flight.toJson.record? fieldNames =
      some [("id", .ofString flight.id), ("source", .ofString flight.source),
        ("destination", .ofString flight.destination),
        ("departure", .ofString flight.departure.render),
        ("arrival", .ofString flight.arrival.render), ("price", flight.price.toJson),
        ("availableSeats", .ofInt flight.availableSeats)] :=
    Json.Value.record?_ofMembers rfl (by decide)
  rw [ofJson?, record]
  simp only [Option.bind_eq_bind, Option.bind_some]
  rw [Json.Value.required?_of_lookup rfl, Json.Value.required?_of_lookup rfl,
    Json.Value.required?_of_lookup rfl, Json.Value.required?_of_lookup rfl,
    Json.Value.required?_of_lookup rfl, Json.Value.required?_of_lookup rfl,
    Json.Value.required?_of_lookup rfl]
  simp only [Json.Value.text?_ofString, Time.Instant.ofJson?_render, loaded,
    Json.Value.signed?_ofInt seats, Option.bind_some, Option.pure_def]

theorem exists_listOfJson?_listToJson {flights : List Flight}
    (writable : ∀ flight ∈ flights, flight.IsWritable) :
    ∃ loaded, listOfJson? (listToJson flights) = some loaded ∧
      List.Forall₂ IsReadAs flights loaded := by
  simp only [listOfJson?, listToJson, Json.Value.list?, List.mapM_map]
  induction flights with
  | nil => exact ⟨[], rfl, .nil⟩
  | cons flight flights inductionHypothesis =>
    have own := writable flight List.mem_cons_self
    rcases inductionHypothesis fun later member =>
      writable later (List.mem_cons_of_mem _ member) with ⟨loaded, decoded, same⟩
    rcases Price.exists_ofJson?_toJson own.price with ⟨price, read, left⟩
    refine ⟨{ flight with price := price } :: loaded, ?_, .cons ⟨rfl, left⟩ same⟩
    rw [List.mapM_cons, Function.comp, ofJson?_toJson own.seats read]
    simp only [Option.bind_eq_bind, Option.bind_some]
    rw [decoded]
    rfl

end Flight

/-! ## Files -/

theorem FileContent.text_ofText (text : String) : (FileContent.ofText text).text = .ok text := by
  have decoded : String.fromUTF8? text.toUTF8 = some text := dif_pos text.isValidUTF8
  rw [ofText, FileContent.text, decoded]

theorem Inventory.load_file_render {document : Json.Value} (strict : document.IsStrict)
    {flights : List Flight} (listed : Flight.listOfJson? document = some flights) :
    (Inventory.file (.ofText document.render)).load = .ok flights := by
  rw [load, FileContent.flights, FileContent.text_ofText]
  simp only [Json.Value.read?_render strict, Option.bind_some, listed]

/-- Every list of flights that is written to a file is loaded from it, with the same
flights in the same order.  Texts, times and seats are the same.  Each price is finite and
has its sign; its magnitude is at most two steps off, at most one if the power of ten in its
numeral is a number, and not at all if the digits of the numeral are one as well. -/
theorem Inventory.exists_load_file_listToJson {flights : List Flight}
    (writable : ∀ flight ∈ flights, flight.IsWritable) :
    ∃ loaded, (Inventory.file (.ofText (Flight.listToJson flights).render)).load = .ok loaded ∧
      List.Forall₂ Flight.IsReadAs flights loaded := by
  rcases Flight.exists_listOfJson?_listToJson writable with ⟨loaded, listed, same⟩
  exact ⟨loaded, Inventory.load_file_render (Flight.isStrict_listToJson flights) listed, same⟩

private theorem isSome_yearEnd :
    (Time.Instant.ofParts? (-719529) 86399 1500000000).isSome = true := by
  decide

private theorem isSome_lastMoment :
    (Time.Instant.ofParts? Time.lastDay 86399 999999999).isSome = true := by
  decide

/-- A flight from the leap second before the year 0 to the end of all time, for one hundred,
with seats owed. -/
private def endlessFlight : Flight where
  id := "F\"1\\\n\x07é"
  source := ""
  destination := "Z😀"
  departure := (Time.Instant.ofParts? (-719529) 86399 1500000000).get isSome_yearEnd
  arrival :=
    (Time.Instant.ofParts? Time.lastDay 86399 999999999).get isSome_lastMoment
  price := ⟨0x4059000000000000⟩
  availableSeats := -0x8000000000000000

theorem Inventory.load_file_endlessFlight :
    (∀ flight ∈ [endlessFlight], flight.IsWritable) ∧
      (Inventory.file (.ofText (Flight.listToJson [endlessFlight]).render)).load =
        .ok [endlessFlight] := by
  have writable : ∀ flight ∈ [endlessFlight], flight.IsWritable := by
    intro flight member
    rw [List.mem_singleton] at member
    subst member
    exact ⟨by decide, by decide⟩
  refine ⟨writable, ?_⟩
  rcases Inventory.exists_load_file_listToJson writable with ⟨loaded, found, same⟩
  rw [found]
  cases same with
  | cons first rest =>
    cases rest
    have price := first.price.none (by decide +kernel) (Price.isExact_of_lt (by decide +kernel))
    rw [first.fields, price]

/-- A flight that costs as much as one for 82.72 and one for 334.33. -/
private def addedFlight : Flight where
  id := "F1"
  source := "A"
  destination := "B"
  departure := Graph.atHour 10
  arrival := Graph.atHour 12
  price := Price.add ⟨0x4054AE147AE147AE⟩ ⟨0x4074E547AE147AE1⟩
  availableSeats := 5

/-- The seventeen digits of such a price make up a whole number that is rounded, and the
price that is loaded is the one below. -/
theorem Inventory.load_file_addedFlight :
    (∀ flight ∈ [addedFlight], flight.IsWritable) ∧
      addedFlight.price = ⟨0x407A10CCCCCCCCCC⟩ ∧
        (Inventory.file (.ofText (Flight.listToJson [addedFlight]).render)).load =
            .ok [{ addedFlight with price := ⟨0x407A10CCCCCCCCCB⟩ }] ∧
          (Inventory.file (.ofText (Flight.listToJson [addedFlight]).render)).load ≠
            .ok [addedFlight] := by
  have price : addedFlight.price = ⟨0x407A10CCCCCCCCCC⟩ := by decide +kernel
  have writable : addedFlight.IsWritable := ⟨by decide, by decide +kernel⟩
  have read : Price.ofJson? addedFlight.price.toJson = some ⟨0x407A10CCCCCCCCCB⟩ := by
    decide +kernel
  have loaded : (Inventory.file (.ofText (Flight.listToJson [addedFlight]).render)).load =
      .ok [{ addedFlight with price := ⟨0x407A10CCCCCCCCCB⟩ }] := by
    refine Inventory.load_file_render (Flight.isStrict_listToJson _) ?_
    rw [Flight.listOfJson?, Flight.listToJson, Json.Value.list?, List.map_singleton,
      List.mapM_cons, Flight.ofJson?_toJson writable.seats read]
    rfl
  refine ⟨fun flight member => List.mem_singleton.mp member ▸ writable, price, loaded, ?_⟩
  rw [loaded]
  intro same
  have prices := congrArg Flight.price (List.cons.inj (Except.ok.inj same)).1
  rw [price] at prices
  exact absurd prices (by decide)

end Itineraries
