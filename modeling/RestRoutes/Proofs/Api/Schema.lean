import RestRoutes.Api.Schema

/-! A schema read by the names in the map that describes it. -/

namespace RestRoutes.Api.Schema

theorem itemsIn_eq (es : List (Value × Value)) :
    itemsIn es = ofValue ((Value.map es).get "items") := by
  induction es with
  | nil => simp [itemsIn, Value.get, Value.get?, Value.lookup, ofValue]
  | cons e rest ih =>
    obtain ⟨k, v⟩ := e
    cases k with
    | str name =>
      by_cases hName : name = "items"
      · simp [itemsIn, Value.get, Value.get?, Value.lookup, hName]
      · rw [itemsIn, if_neg hName, ih]
        simp [Value.get, Value.get?, Value.lookup, hName]
    | _ => simpa [itemsIn, Value.get, Value.get?, Value.lookup] using ih

def propertiesOf : Value → Except Failure (Option (List (String × Schema)))
  | .map ps => (namedSchemas ps).map (some ∘ Assoc.ofNamed)
  | _ => .ok none

theorem propertiesIn_eq (es : List (Value × Value)) :
    propertiesIn es = propertiesOf ((Value.map es).get "properties") := by
  induction es with
  | nil => simp [propertiesIn, Value.get, Value.get?, Value.lookup, propertiesOf]
  | cons e rest ih =>
    obtain ⟨k, v⟩ := e
    cases k with
    | str name =>
      by_cases hName : name = "properties"
      · cases v <;> simp [propertiesIn, Value.get, Value.get?, Value.lookup, hName, propertiesOf]
      · have hRest : propertiesIn ((.str name, v) :: rest) = propertiesIn rest := by
          cases v <;> simp [propertiesIn, hName]
        rw [hRest, ih]
        simp [Value.get, Value.get?, Value.lookup, hName]
    | _ => simpa [propertiesIn, Value.get, Value.get?, Value.lookup] using ih

/-- The schema of a map that is no reference. -/
theorem ofValue_inline {v : Value} (hMap : v.isMap = true) (hRef : v.get? "$ref" = none) :
    ofValue v = do
      let type ← typeName (v.get "type")
      let description ← (v.get "description").scalarText
      let items ← ofValue (v.get "items")
      let properties ← propertiesOf (v.get "properties")
      return some
        (.inline type description (v.get "enum").items (v.get "default") items properties) := by
  cases v with
  | map es =>
    have hLookup : Value.lookup "$ref" es = none := hRef
    rw [ofValue, hLookup]
    simp only [itemsIn_eq, propertiesIn_eq]
  | _ => exact absurd hMap Bool.false_ne_true

end RestRoutes.Api.Schema
