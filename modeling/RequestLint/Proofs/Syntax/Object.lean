import RequestLint.Syntax.Object
import RequestLint.Proofs.Syntax.Wrapper

/-! Object literals, their entries, and the arguments of a call. A literal is reached
through wrappers, an entry that a key names is a part of the literal, and an argument
is a part of the list of its call, so all can be followed back up to what they stand
in. -/
namespace RequestLint.Node

variable {node inner object outer value entry : Node} {key : String}

theorem isWrapper_of_kind {kind : String} (named : node.kind = kind) (plain : kind ∉ wrapperKinds) :
    node.isWrapper = false := by
  rw [isWrapper, named]
  exact decide_eq_false plain

theorem parent?_of_mem_parts (part : inner ∈ node.parts) : inner.parent? = some node :=
  mem_children_iff.1 (List.mem_filter.1 (List.mem_filter.1 part).1).1

theorem parent?_of_child? {field : String} (found : node.child? field = some inner) :
    inner.parent? = some node := mem_children_iff.1 (mem_children_of_child? found)

theorem mem_parts_of_argument? {call argument : Node} {index : Nat}
    (found : call.argument? index = some argument) :
    ∃ list, call.child? "arguments" = some list ∧ list.kind = "arguments" ∧
      argument ∈ list.parts := by
  rw [argument?] at found
  split at found
  · cases found
  · have member := List.mem_of_getElem? found
    rw [arguments] at member
    split at member
    next list held =>
      split at member
      next kind => exact ⟨list, held, kind, member⟩
      next => cases member
    next => cases member

theorem objectLiteral?_eq_some_iff :
    node.objectLiteral? = some object ↔ node.unwrap = some object ∧ object.kind = "object" := by
  simp only [objectLiteral?, Option.filter_eq_some_iff, decide_eq_true_eq]

theorem unwrap_of_object (literal : object.kind = "object") : object.unwrap = some object :=
  unwrap_of_not_wrapper (isWrapper_of_kind literal (by decide))

theorem objectLiteral?_of_object (literal : object.kind = "object") :
    object.objectLiteral? = some object :=
  objectLiteral?_eq_some_iff.2 ⟨unwrap_of_object literal, literal⟩

theorem entries_of_object (literal : object.kind = "object") : object.entries = object.parts := by
  rw [entries, objectLiteral?_of_object literal]

/-- The literal in `value` stands where `value` stands. -/
theorem standsIn_of_objectLiteral? (found : value.objectLiteral? = some object)
    (above : value.parent? = some outer) (plain : outer.isWrapper = false) :
    StandsIn object outer :=
  ⟨value, (wrappedIn_of_unwrap (objectLiteral?_eq_some_iff.1 found).1).1, above, plain⟩

theorem mem_entries_of_lookup? (found : object.lookup? key = some entry) :
    entry ∈ object.entries ∧ entry.hasKey key = true :=
  List.mem_filter.1 (List.mem_of_getLast? found)

/-- Only pairs and shorthands have a key that can be looked up. -/
theorem kind_of_hasKey (keyed : entry.hasKey key = true) :
    entry.kind = "shorthand_property_identifier" ∨ entry.kind = "pair" := by
  rw [hasKey, entryKey?] at keyed
  split at keyed
  next short => exact Or.inl short
  next =>
    split at keyed
    next pair => exact Or.inr pair
    next => cases keyed

/-- An entry whose value is a literal is a pair, and the literal stands in it. -/
theorem standsIn_of_entryValue? (keyed : entry.hasKey key = true)
    (found : entry.entryValue?.bind objectLiteral? = some object) :
    entry.kind = "pair" ∧ StandsIn object entry := by
  obtain ⟨value, held, literal⟩ := Option.bind_eq_some_iff.1 found
  rcases kind_of_hasKey keyed with short | pair
  · rw [entryValue?, if_pos short, Option.some.injEq] at held
    subst held
    obtain ⟨opened, kind⟩ := objectLiteral?_eq_some_iff.1 literal
    rw [unwrap_of_not_wrapper (isWrapper_of_kind short (by decide)), Option.some.injEq] at opened
    subst opened
    exact absurd (short.symm.trans kind) (by decide)
  · rw [entryValue?, if_neg (by simp [pair])] at held
    exact ⟨pair, standsIn_of_objectLiteral? literal (parent?_of_child? held)
      (isWrapper_of_kind pair (by decide))⟩

theorem StandsIn.unique {first second : Node} (one : StandsIn node first)
    (other : StandsIn node second) : first = second :=
  Option.some.inj ((context?_eq_some_iff.2 one).symm.trans (context?_eq_some_iff.2 other))

/-- What a node stands in encloses it. -/
theorem StandsIn.mem_ancestors (stands : StandsIn node outer) : outer ∈ node.ancestors := by
  have around := context?_eq_some_iff.2 stands
  exact List.mem_of_find?_eq_some around

end RequestLint.Node
