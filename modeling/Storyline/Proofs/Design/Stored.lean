-- SUMMARY: A design document that was written as JSON is read as the document that was written.
import Storyline.Design
import Storyline.Proofs.Json.RoundTrip
import Storyline.Proofs.SortedMap

/-!
# Reading a design that was written

A design and its parts have the two laws of stored data, and the shape of a design expects `null` in one sense
only. So every design comes back from its JSON text, whatever its names and texts are.
-/

namespace Storyline

open Data Ron

/-! ## The parts of a design -/

theorem NodeKind.ofName?_name (kind : NodeKind) : ofName? kind.name = some kind := by
  cases kind <;> rfl

theorem NodeSpec.fits_toValue (spec : NodeSpec) : Fits shape spec.toValue := by
  have hkind : Fits (.name ["normal", "merge"]) (.name spec.kind.name) := by
    cases spec.kind <;> exact .name (by decide) (by decide)
  exact .record (by decide) (by decide) (.cons (.text _) (.cons (.text _) (.cons hkind .nil)))

theorem NodeSpec.ofValue?_toValue (spec : NodeSpec) : ofValue? spec.toValue = some spec := by
  simp [ofValue?, toValue, Value.defaulted?, Value.field?, List.lookup_cons, Value.toText?, Value.toName?,
    NodeKind.ofName?_name]

theorem Edge.fits_toValue (edge : Edge) : Fits shape edge.toValue :=
  .record (by decide) (by decide) (.cons (.text _) (.cons (.text _) (.cons (fits_ofOption_text _) .nil)))

theorem Edge.ofValue?_toValue (edge : Edge) : ofValue? edge.toValue = some edge := by
  simp [ofValue?, toValue, Value.required?, Value.defaulted?, Value.field?, List.lookup_cons, Value.toText?,
    toOption?_ofOption_text]

/-! ## Designs -/

namespace Design

theorem fits_toValue (design : Design) : Fits shape design.toValue :=
  .record (by decide) (by decide)
    (.cons (fits_dict fun entry _ => entry.2.fits_toValue)
      (.cons (fits_list fun edge _ => edge.fits_toValue) .nil))

theorem ofValue?_toValue (design : Design) : ofValue? design.toValue = some design := by
  simp [ofValue?, toValue, Value.required?, Value.defaulted?, Value.field?, List.lookup_cons,
    toDict?_map NodeSpec.ofValue?_toValue, toList?_map Edge.ofValue?_toValue, SortedMap.ofList_entries]

/-- A design is read back from its JSON text, whatever its names and texts are. -/
theorem ofJson?_toJson (design : Design) : ofJson? design.toJson = some design := by
  have hread : Json.read? shape (Json.pretty design.toValue) = some design.toValue :=
    Json.read?_pretty rfl design.fits_toValue
  rw [ofJson?, toJson, hread, Option.bind_some, ofValue?_toValue]

end Design

end Storyline
