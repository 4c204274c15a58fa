import DataShape.Proofs.Schema.Bare
import DataShape.Proofs.Validation.Likeness

/-! Wrappers play no part in validation: a schema that passes the check accepts, refuses and reports the same once all
its wrappers are taken off. -/

namespace DataShape
namespace Schema

/-- The marks of properties make no difference. -/
theorem alike_unmarked (s : Schema) : s.unmarked.Alike s := by
  induction s using induction_on_children with
  | step s ih =>
    cases s with
    | array items => exact .array (ih (.items, items) (List.mem_singleton_self _))
    | record values => exact .record (ih (.values, values) (List.mem_singleton_self _))
    | tuple items =>
      rw [unmarked, unmarkedItems_eq_map]
      refine .tuple (List.length_map _) fun i s t hs ht => ?_
      rw [List.getElem?_map, ht] at hs
      cases hs
      exact ih (.index i, t) (List.mem_map.2 ⟨(t, i), List.mk_mem_zipIdx_iff_getElem?.2 ht, rfl⟩)
    | object properties required =>
      have hfound (key : Value) : propertyFor? (unmarkedProperties properties) key =
          (propertyFor? properties key).map fun property => ⟨property.key, false, property.schema.unmarked⟩ := by
        rw [propertyFor?, unmarkedProperties_eq_map, List.find?_map]
        rfl
      refine .object required (fun key => by rw [hfound, Option.isSome_map]) fun key p q hp hq => ?_
      rw [hfound, hq] at hp
      cases hp
      exact ih (.key q.key, q.schema) (List.mem_map.2 ⟨q, List.mem_of_find?_eq_some hq, rfl⟩)
    | _ => exact .refl _

end Schema

/-- A schema that passes the check still does when its wrappers are taken off at every depth, which leaves no wrapper
among its nodes, and validation finds the same under it, in every value and at every path. -/
theorem validate_without_wrappers (schema : Value) (path : String) (h : checkSchema schema path = .ok ()) :
    (∀ place, checkSchema schema.bare place = checkSchema schema place) ∧
    schema.bare.nodes = schema.nodes.map (fun node => (node.1, node.2.bare)) ∧
    (∀ node ∈ schema.bare.nodes, node.2.isModified = false) ∧
    ∀ v place, validate schema.bare v place = validate schema v place := by
  have hwell := Schema.wellFormed_of_check h
  have hreads := Schema.readsBare_of_wellFormed hwell
  refine ⟨fun place => ?_, Schema.nodes_bare hwell, fun _ => Schema.isModified_of_mem_nodes_bare hwell, fun v place => ?_⟩
  · rw [checkSchema, checkSchema, hreads.ofValue_eq, Schema.check_unmarked]
  · rw [validate, validate, hreads.ofValue_eq, (Schema.alike_unmarked _).issues_eq]

/-- Wrappers are taken off an object, one of its properties and the items of an array there; the marks are gone, and
the number below the bound is reported in the same words. -/
theorem validate_sizes_without_wrappers :
    validate (.ofFields [("type", .str "object"), ("properties", .ofFields [("sizes", .ofFields [
        ("type", .str "array"), ("items", .ofFields [("type", .str "number"), ("minimum", .int 0)])])]),
        ("required", .list [.str "sizes"])])
      (.ofFields [("sizes", .list [.int 2, .int (-1)])]) "/box" =
    validate (.ofFields [("type", .str "modified"), ("optional", .bool true), ("item", .ofFields [
        ("type", .str "object"), ("properties", .ofFields [("sizes", .ofFields [("type", .str "modified"),
          ("item", .ofFields [("type", .str "array"), ("items", .ofFields [("type", .str "modified"),
            ("item", .ofFields [("type", .str "number"), ("minimum", .int 0)]), ("readonly", .bool true)])]),
          ("readonly", .bool true)])]),
        ("required", .list [.str "sizes"])])])
      (.ofFields [("sizes", .list [.int 2, .int (-1)])]) "/box" := by
  refine Eq.trans (congrArg (validate · _ _) ?_) ((validate_without_wrappers _ "" ?_).2.2.2 _ _)
  · rfl
  · rfl

end DataShape
