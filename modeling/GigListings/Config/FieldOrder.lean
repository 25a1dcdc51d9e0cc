import GigListings.Config.Field

namespace GigListings.FieldRules

/-! The order in which fields are extracted: a field comes after those that its parameters name. -/

/-- Whether all siblings that a field names, but for itself, have been placed. -/
def isReady (fields : FieldRules) (placed : List String) (entry : String × FieldRule) : Bool :=
  (entry.2.references fun name => Dict.contains fields name).all fun name =>
    name == entry.1 || placed.contains name

def ready (fields : FieldRules) (placed : List String) (remaining : FieldRules) : FieldRules :=
  remaining.filter (fields.isReady placed)

def waiting (fields : FieldRules) (placed : List String) (remaining : FieldRules) : FieldRules :=
  remaining.filter fun entry => !fields.isReady placed entry

theorem length_waiting_lt {fields : FieldRules} {placed : List String} {remaining : FieldRules}
    (h : fields.ready placed remaining ≠ []) :
    (fields.waiting placed remaining).length < remaining.length := by
  obtain ⟨entry, found⟩ := List.exists_mem_of_ne_nil _ h
  obtain ⟨found, isReady⟩ := List.mem_filter.mp found
  exact List.length_filter_lt_length_iff_exists.mpr ⟨entry, found, by simp [isReady]⟩

/-- Places the fields that are ready, round by round. Where none is, the fields that are left
depend on a cycle and keep their order. -/
def orderAfter (fields : FieldRules) (placed : List String) (remaining : FieldRules) :
    List String :=
  if _ : fields.ready placed remaining = [] then Dict.names remaining
  else
    let names := Dict.names (fields.ready placed remaining)
    names ++ fields.orderAfter (placed ++ names) (fields.waiting placed remaining)
termination_by remaining.length
decreasing_by exact length_waiting_lt ‹_›

def order (fields : FieldRules) : List String := fields.orderAfter [] fields

end GigListings.FieldRules
