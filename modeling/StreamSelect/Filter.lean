import StreamSelect.Event

/-! External predicates. A constraint names a filter; what the filter accepts is looked up, so the
same filter always accepts the same. -/
namespace StreamSelect

/-- A filter. Those that a handler makes anew whenever it declares are told apart by their copies. -/
structure FilterId where
  index : Nat
  copy : Nat := 0
  deriving Repr, DecidableEq, Hashable, Inhabited

/-- What each filter accepts, as a filter of elements and as one of attribute values. -/
structure Filters where
  onElement : FilterId → StartElement → Bool
  onValue : FilterId → Name → String → Bool

/-- A filter that was asked, and its answer. -/
structure Consultation where
  filter : FilterId
  accepted : Bool
  deriving Repr, DecidableEq, Inhabited

end StreamSelect
