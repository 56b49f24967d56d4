import MatrixFlow.Proofs.Json.Equality
import MatrixFlow.Proofs.Json.Fields
import MatrixFlow.Proofs.Yaml.Keys

/-!
# Values of documents and matrix values

* `Json.IsValid`: the values that JSON has.
* `Yaml.Value.ofJson`: a matrix value as a value of a document, which `jsonOf` makes it again.
* `Yaml.Value.bare`: a value of a document without its tags.
* `jsonItems_eq`, `jsonFields_eq`: what becomes of items and entries, one by one.
* `Yaml.json_survives`: how matrix values and values of documents go together.
-/

namespace MatrixFlow

/-! ## JSON values -/

/-- A number that JSON has: an integer of 64 bits with or without a sign, or a finite fraction. -/
def Number.isValid : Number → Bool
  | int i => decide (Int64.minValue.toInt ≤ i ∧ i ≤ Int64.maxValue.toInt) ||
      decide (0 ≤ i ∧ i < UInt64.size)
  | float x => x.isFinite

namespace Json

mutual

/-- A value that JSON has: its numbers are valid, and the fields of an object are sorted. -/
def isValid : Json → Bool
  | num n => n.isValid
  | arr items => itemsValid items
  | obj fields => decide (Sorted fields) && fieldsValid fields
  | null | bool _ | str _ => true

/-- The same for all items of an array. -/
def itemsValid : List Json → Bool
  | [] => true
  | a :: as => isValid a && itemsValid as

/-- The same for the values of all fields of an object. -/
def fieldsValid : List (String × Json) → Bool
  | [] => true
  | (_, a) :: as => isValid a && fieldsValid as

end

end Json

namespace Yaml.Value

mutual

/-- A matrix value as it can be written in a document. -/
def ofJson : Json → Value
  | .null => null
  | .bool b => bool b
  | .num n => num n
  | .str s => str s
  | .arr items => seq (ofItems items)
  | .obj fields => map (ofFields fields)

/-- The items of an array as those of a sequence. -/
def ofItems : List Json → List Value
  | [] => []
  | a :: as => ofJson a :: ofItems as

/-- The fields of an object as the entries of a mapping. -/
def ofFields : List (String × Json) → List (Value × Value)
  | [] => []
  | (k, a) :: as => (str k, ofJson a) :: ofFields as

end

mutual

/-- A value without the tags on it and inside it. Those of keys are taken away only if `ofKeys` is
set; keys that become the same by this all stay. -/
def bare (ofKeys : Bool) : Value → Value
  | tagged _ v => bare ofKeys v
  | seq items => seq (bareItems ofKeys items)
  | map entries => map (bareEntries ofKeys entries)
  | null => null
  | bool b => bool b
  | num n => num n
  | str s => str s

/-- The same for the items of a sequence. -/
def bareItems (ofKeys : Bool) : List Value → List Value
  | [] => []
  | v :: rest => bare ofKeys v :: bareItems ofKeys rest

/-- The same for the entries of a mapping. -/
def bareEntries (ofKeys : Bool) : List (Value × Value) → List (Value × Value)
  | [] => []
  | (k, v) :: rest =>
    (if ofKeys then bare ofKeys k else k, bare ofKeys v) :: bareEntries ofKeys rest

end

end Yaml.Value

open Yaml (Value)

/-! ## Items and entries -/

section

variable {items : List Value} {entries : List (Value × Value)}

theorem jsonItems_eq (items : List Value) : jsonItems items = items.map jsonOf := by
  induction items with
  | nil => rfl
  | cons v items ih => rw [jsonItems, ih, List.map_cons]

/-- The field that an entry becomes, if its key is a string. -/
def fieldOf? (e : Value × Value) : Option (String × Json) :=
  e.1.asText?.map fun name => (name, jsonOf e.2)

theorem jsonFields_eq (entries : List (Value × Value)) :
    jsonFields entries = entries.filterMap fieldOf? := by
  induction entries with
  | nil => rfl
  | cons e entries ih =>
    obtain ⟨k, v⟩ := e
    rw [jsonFields, List.filterMap_cons, fieldOf?, ih]
    cases k.asText? <;> rfl

/-- The value of a name is that of the first entry with this key. -/
theorem lookup_filterMap_fieldOf? (entries : List (Value × Value)) (name : String) :
    (entries.filterMap fieldOf?).lookup name =
      (entries.find? fun e => e.1.asText? = some name).map fun e => jsonOf e.2 := by
  induction entries with
  | nil => rfl
  | cons e entries ih =>
    obtain ⟨k, v⟩ := e
    rw [List.filterMap_cons, fieldOf?, List.find?_cons]
    cases hk : k.asText? with
    | none => simpa using ih
    | some own =>
      simp only [Option.map_some, Option.some.injEq]
      rw [lookup_pair_cons, ih]
      by_cases hown : own = name
      · simp [hown]
      · simp [hown, Ne.symm hown]

/-- The fields of an object are those of the entries whose keys are strings. The last entry of a key
decides about its value. -/
theorem lookup_collect_jsonFields (entries : List (Value × Value)) (name : String) :
    (Json.collect (jsonFields entries)).lookup name =
      (entries.reverse.find? fun e => e.1.asText? = some name).map fun e => jsonOf e.2 := by
  rw [Json.lookup_collect, jsonFields_eq, ← List.filterMap_reverse, lookup_filterMap_fieldOf?]

theorem mem_names_collect_jsonFields {name : String} :
    name ∈ (Json.collect (jsonFields entries)).map (·.1) ↔
      ∃ e ∈ entries, e.1.asText? = some name := by
  rw [Json.mem_names_iff_lookup, lookup_collect_jsonFields, Option.isSome_map, List.find?_isSome]
  simp

theorem jsonOf_untag (v : Value) : jsonOf v.untag = jsonOf v := by
  cases v with
  | null | bool _ | num _ | str _ | seq _ | map _ => rfl
  | tagged tag v => rw [Value.untag, jsonOf_untag v, jsonOf]

theorem untag_eq_seq {v : Value} (h : v.asItems? = some items) : v.untag = .seq items := by
  unfold Value.asItems? at h
  split at h
  · rename_i hv
    rw [hv, Option.some.inj h]
  · cases h

theorem untag_eq_map {v : Value} (h : v.asEntries? = some entries) : v.untag = .map entries := by
  unfold Value.asEntries? at h
  split at h
  · rename_i hv
    rw [hv, Option.some.inj h]
  · cases h

end

/-! ## There and back -/

section Embedding

open Yaml.Value (ofJson ofItems ofFields)

mutual

theorem jsonOf_ofJson (a : Json) (h : a.isValid = true) : jsonOf (ofJson a) = a := by
  cases a with
  | null | bool _ | str _ => rfl
  | num n =>
    rw [ofJson, jsonOf]
    cases n with
    | int i => exact jsonOfInteger_eq i
    | float x =>
      have hx : x.isFinite = true := h
      rw [jsonOfNumber, if_pos hx]
  | arr items => rw [ofJson, jsonOf, jsonItems_ofItems items h]
  | obj fields =>
    rw [Json.isValid, Bool.and_eq_true, decide_eq_true_iff] at h
    rw [ofJson, jsonOf, jsonFields_ofFields fields h.2, Json.ofFields_eq,
      Json.collect_eq_self h.1]

theorem jsonItems_ofItems (items : List Json) (h : Json.itemsValid items = true) :
    jsonItems (ofItems items) = items := by
  cases items with
  | nil => rfl
  | cons a items =>
    rw [Json.itemsValid, Bool.and_eq_true] at h
    rw [ofItems, jsonItems, jsonOf_ofJson a h.1, jsonItems_ofItems items h.2]

theorem jsonFields_ofFields (fields : List (String × Json)) (h : Json.fieldsValid fields = true) :
    jsonFields (ofFields fields) = fields := by
  cases fields with
  | nil => rfl
  | cons p fields =>
    obtain ⟨k, a⟩ := p
    rw [Json.fieldsValid, Bool.and_eq_true] at h
    rw [ofFields, jsonFields, jsonOf_ofJson a h.1, jsonFields_ofFields fields h.2]
    rfl

end

theorem apart_keys_ofFields {fields : List (String × Json)} (h : Json.Sorted fields) :
    Value.KeysApart ((ofFields fields).map (·.1)) := by
  have hkeys : (ofFields fields).map (·.1) = fields.map fun p => .str p.1 := by
    clear h
    induction fields with
    | nil => rfl
    | cons p fields ih => exact congrArg (.str p.1 :: ·) ih
  rw [hkeys, Value.KeysApart, List.pairwise_map]
  exact h.imp fun hlt => beq_false_of_ne hlt.ne

mutual

/-- A matrix value can be written in a document: no mapping gets a key twice. -/
theorem keysUnique_ofJson (a : Json) (h : a.isValid = true) : (ofJson a).keysUnique = true := by
  cases a with
  | null | bool _ | num _ | str _ => rfl
  | arr items => exact Value.keysUniqueItems_iff.mpr (keysUnique_ofItems items h)
  | obj fields =>
    rw [Json.isValid, Bool.and_eq_true, decide_eq_true_iff] at h
    exact Value.keysUnique_map_iff.mpr ⟨keysUnique_ofFields fields h.2, apart_keys_ofFields h.1⟩

theorem keysUnique_ofItems (items : List Json) (h : Json.itemsValid items = true) :
    ∀ v ∈ ofItems items, v.keysUnique = true := by
  cases items with
  | nil => exact nofun
  | cons a items =>
    rw [Json.itemsValid, Bool.and_eq_true] at h
    exact List.forall_mem_cons.mpr ⟨keysUnique_ofJson a h.1, keysUnique_ofItems items h.2⟩

theorem keysUnique_ofFields (fields : List (String × Json)) (h : Json.fieldsValid fields = true) :
    ∀ e ∈ ofFields fields, e.1.keysUnique = true ∧ e.2.keysUnique = true := by
  cases fields with
  | nil => exact nofun
  | cons p fields =>
    obtain ⟨k, a⟩ := p
    rw [Json.fieldsValid, Bool.and_eq_true] at h
    exact List.forall_mem_cons.mpr ⟨⟨rfl, keysUnique_ofJson a h.1⟩, keysUnique_ofFields fields h.2⟩

end

end Embedding

/-! ## Tags -/

section Tags

open Yaml.Value (bare bareItems bareEntries hasTag hasTagItems hasTagEntries)

variable {ofKeys : Bool}

theorem asText?_bare (ofKeys : Bool) (k : Value) : (k.bare ofKeys).asText? = k.asText? := by
  cases k with
  | null | bool _ | num _ | str _ | seq _ | map _ => rfl
  | tagged tag k =>
    rw [bare, asText?_bare ofKeys k]
    rfl

mutual

theorem jsonOf_bare (v : Value) : jsonOf (v.bare ofKeys) = jsonOf v := by
  cases v with
  | null | bool _ | num _ | str _ => rfl
  | seq items => rw [bare, jsonOf, jsonOf, jsonItems_bareItems items]
  | map entries => rw [bare, jsonOf, jsonOf, jsonFields_bareEntries entries]
  | tagged tag v => rw [bare, jsonOf, jsonOf_bare v]

theorem jsonItems_bareItems (items : List Value) :
    jsonItems (bareItems ofKeys items) = jsonItems items := by
  cases items with
  | nil => rfl
  | cons v items => rw [bareItems, jsonItems, jsonItems, jsonOf_bare v, jsonItems_bareItems items]

theorem jsonFields_bareEntries (entries : List (Value × Value)) :
    jsonFields (bareEntries ofKeys entries) = jsonFields entries := by
  cases entries with
  | nil => rfl
  | cons e entries =>
    obtain ⟨k, v⟩ := e
    have hkey : (if ofKeys then k.bare ofKeys else k).asText? = k.asText? := by
      split
      · exact asText?_bare ofKeys k
      · rfl
    rw [bareEntries, jsonFields, jsonFields, hkey, jsonOf_bare v, jsonFields_bareEntries entries]

end

mutual

theorem hasTag_bare (v : Value) : (v.bare true).hasTag = false := by
  cases v with
  | null | bool _ | num _ | str _ => rfl
  | seq items => rw [bare, hasTag, hasTagItems_bareItems items]
  | map entries => rw [bare, hasTag, hasTagEntries_bareEntries entries]
  | tagged tag v => rw [bare, hasTag_bare v]

theorem hasTagItems_bareItems (items : List Value) :
    hasTagItems (bareItems true items) = false := by
  cases items with
  | nil => rfl
  | cons v items => rw [bareItems, hasTagItems, hasTag_bare v, hasTagItems_bareItems items]; rfl

theorem hasTagEntries_bareEntries (entries : List (Value × Value)) :
    hasTagEntries (bareEntries true entries) = false := by
  cases entries with
  | nil => rfl
  | cons e entries =>
    obtain ⟨k, v⟩ := e
    rw [bareEntries, hasTagEntries, if_pos rfl, hasTag_bare k, hasTag_bare v,
      hasTagEntries_bareEntries entries]
    rfl

end

end Tags

/-! ## Both together -/

namespace Yaml

/-- Every value that JSON has can be written in a document, and is read from there as it was. Tags
make no difference to what is read, at any depth, whether keys keep them or not. A sequence becomes
an array of as many items, and a mapping becomes an object whose names are those keys that are
strings; where several keys are the same string, the last of them decides about the value. -/
theorem json_survives :
    (∀ a : Json, a.isValid = true →
      (Value.ofJson a).keysUnique = true ∧ jsonOf (Value.ofJson a) = a) ∧
    ∀ v : Value,
      (v.bare true).hasTag = false ∧ (∀ ofKeys, jsonOf (v.bare ofKeys) = jsonOf v) ∧
      (∀ items, v.asItems? = some items → ∃ values, jsonOf v = .arr values ∧
        values.length = items.length ∧ values = items.map jsonOf) ∧
      ∀ entries, v.asEntries? = some entries → ∃ fields, jsonOf v = .obj fields ∧
        Json.Sorted fields ∧
        (∀ name, name ∈ fields.map (·.1) ↔ ∃ e ∈ entries, e.1.asText? = some name) ∧
        ∀ name, fields.lookup name =
          (entries.reverse.find? fun e => e.1.asText? = some name).map fun e => jsonOf e.2 := by
  refine ⟨fun a h => ⟨keysUnique_ofJson a h, jsonOf_ofJson a h⟩, fun v => ⟨hasTag_bare v,
    fun ofKeys => jsonOf_bare v, fun items h => ?_, fun entries h => ?_⟩⟩
  · rw [← jsonOf_untag, untag_eq_seq h, jsonOf, jsonItems_eq]
    exact ⟨_, rfl, List.length_map jsonOf, rfl⟩
  · rw [← jsonOf_untag, untag_eq_map h, jsonOf, Json.ofFields_eq]
    exact ⟨_, rfl, Json.sorted_collect _, fun _ => mem_names_collect_jsonFields,
      lookup_collect_jsonFields entries⟩

/-- The greatest and the least integer, next to a fraction, and a mapping of three keys of which two
are the same string, one of them behind a tag. -/
theorem json_survives_sample :
    let a : Json := .obj [("greatest", .num (.int 18446744073709551615)),
      ("list", .arr [.num (.int (-9223372036854775808)), .num (.float (.finite false 1 (-1)))])]
    let items : List Value := [.tagged "!y" .null, .bool true]
    let entries : List (Value × Value) := [(.tagged "!x" (.str "k"), .null), (.num (.int 1), .null),
      (.str "k", .tagged "!y" (.seq items))]
    let v : Value := .tagged "!z" (.map entries)
    (a.isValid = true ∧ jsonOf (Value.ofJson a) = a) ∧
    ((Value.seq items).asItems? = some items ∧
      ∃ values, jsonOf (.seq items) = .arr values ∧ values.length = 2) ∧
    v.asEntries? = some entries ∧ jsonOf (v.bare true) = jsonOf v ∧
      ∃ fields, jsonOf v = .obj fields ∧ fields.lookup "k" = some (.arr [.null, .bool true]) := by
  intro a items entries v
  have ha : a.isValid = true := by decide
  obtain ⟨hjson, hvalues⟩ := json_survives
  obtain ⟨-, -, hitems, -⟩ := hvalues (.seq items)
  obtain ⟨-, hbare, -, hentries⟩ := hvalues v
  obtain ⟨values, hvalues, hlength, -⟩ := hitems items rfl
  obtain ⟨fields, hfields, -, -, hlookup⟩ := hentries entries rfl
  exact ⟨⟨ha, (hjson a ha).2⟩, ⟨rfl, values, hvalues, hlength⟩, rfl, hbare true, fields, hfields,
    (hlookup "k").trans rfl⟩

end Yaml

end MatrixFlow
