import RequestLint.Rule.JsonContentType
import RequestLint.Proofs.Fix.Insertion

/-! Which literals the content type is looked for in. They are the options of a
request and the headers that those options spell out. Going up from such a
literal leads back to its request, so no literal serves two requests. -/
namespace RequestLint.JsonContentType
open Node

variable {tree : Tree} {call call' options object headers : Node} {entry entry' : String}

/-- The literal that a request is called with. -/
def IsOptions (call options : Node) : Prop :=
  (call.argument? 1).bind objectLiteral? = some options

/-- The literal that options name as headers. -/
def IsHeaders (options headers : Node) : Prop :=
  ∃ pair, options.lookup? "headers" = some pair ∧
    pair.entryValue?.bind objectLiteral? = some headers

/-- A literal that could hold the content type of a request, and the entry that
would supply it there. -/
inductive Supplies (call : Node) : Node → String → Prop
  | options {options : Node} : IsOptions call options → Supplies call options headersEntry
  | headers {options headers : Node} :
    IsOptions call options → IsHeaders options headers → Supplies call headers headerEntry

theorem kind_of_isOptions (given : IsOptions call options) : options.kind = "object" := by
  obtain ⟨argument, _, literal⟩ := Option.bind_eq_some_iff.1 given
  exact (objectLiteral?_eq_some_iff.1 literal).2

theorem kind_of_isHeaders (named : IsHeaders options headers) : headers.kind = "object" := by
  obtain ⟨pair, _, held⟩ := named
  obtain ⟨value, _, literal⟩ := Option.bind_eq_some_iff.1 held
  exact (objectLiteral?_eq_some_iff.1 literal).2

theorem standsIn_of_isOptions (given : IsOptions call options) :
    ∃ list, StandsIn options list ∧ list.kind = "arguments" ∧ list.parent? = some call := by
  obtain ⟨argument, found, literal⟩ := Option.bind_eq_some_iff.1 given
  obtain ⟨list, held, kind, part⟩ := mem_parts_of_argument? found
  exact ⟨list, standsIn_of_objectLiteral? literal (parent?_of_mem_parts part)
    (isWrapper_of_kind kind (by decide)), kind, parent?_of_child? held⟩

theorem standsIn_of_isHeaders (literal : options.kind = "object")
    (named : IsHeaders options headers) :
    ∃ pair, StandsIn headers pair ∧ pair.kind = "pair" ∧ pair.parent? = some options := by
  obtain ⟨pair, found, held⟩ := named
  obtain ⟨member, keyed⟩ := mem_entries_of_lookup? found
  rw [entries_of_object literal] at member
  obtain ⟨kind, stands⟩ := standsIn_of_entryValue? keyed held
  exact ⟨pair, stands, kind, parent?_of_mem_parts member⟩

theorem Supplies.kind (supplies : Supplies call object entry) : object.kind = "object" := by
  cases supplies with
  | options given => exact kind_of_isOptions given
  | headers given named => exact kind_of_isHeaders named

/-- Options stand among arguments and headers in a pair, so neither stands directly
in another literal. -/
theorem Supplies.parent?_ne (supplies : Supplies call object entry) {outer : Node}
    (literal : outer.kind = "object") : object.parent? ≠ some outer := by
  intro above
  have direct : StandsIn object outer :=
    ⟨object, .refl, above, isWrapper_of_kind literal (by decide)⟩
  cases supplies with
  | options given =>
    obtain ⟨list, stands, kind, _⟩ := standsIn_of_isOptions given
    rw [direct.unique stands, kind] at literal
    exact absurd literal (by decide)
  | headers given named =>
    obtain ⟨pair, stands, kind, _⟩ := standsIn_of_isHeaders (kind_of_isOptions given) named
    rw [direct.unique stands, kind] at literal
    exact absurd literal (by decide)

theorem eq_of_isOptions (given : IsOptions call options) (given' : IsOptions call' options) :
    call = call' := by
  obtain ⟨list, stands, _, above⟩ := standsIn_of_isOptions given
  obtain ⟨list', stands', _, above'⟩ := standsIn_of_isOptions given'
  rw [stands.unique stands', above'] at above
  exact (Option.some.inj above).symm

/-- What could be the headers of some options is not the options of a request. -/
theorem not_isOptions_of_isHeaders (literal : options.kind = "object")
    (named : IsHeaders options headers) : ¬ IsOptions call headers := by
  intro given
  obtain ⟨pair, stands, pairKind, _⟩ := standsIn_of_isHeaders literal named
  obtain ⟨list, stands', listKind, _⟩ := standsIn_of_isOptions given
  rw [stands.unique stands', listKind] at pairKind
  exact absurd pairKind (by decide)

theorem eq_of_isHeaders {options' : Node} (literal : options.kind = "object")
    (literal' : options'.kind = "object") (named : IsHeaders options headers)
    (named' : IsHeaders options' headers) : options = options' := by
  obtain ⟨pair, stands, _, above⟩ := standsIn_of_isHeaders literal named
  obtain ⟨pair', stands', _, above'⟩ := standsIn_of_isHeaders literal' named'
  rw [stands.unique stands', above'] at above
  exact (Option.some.inj above).symm

/-- A literal serves one request only. -/
theorem Supplies.unique (supplies : Supplies call object entry)
    (supplies' : Supplies call' object entry') : call = call' := by
  cases supplies with
  | options given =>
    cases supplies' with
    | options given' => exact eq_of_isOptions given given'
    | headers given' named' =>
      exact absurd given (not_isOptions_of_isHeaders (kind_of_isOptions given') named')
  | headers given named =>
    cases supplies' with
    | options given' =>
      exact absurd given' (not_isOptions_of_isHeaders (kind_of_isOptions given) named)
    | headers given' named' =>
      obtain rfl := eq_of_isHeaders (kind_of_isOptions given) (kind_of_isOptions given') named
        named'
      exact eq_of_isOptions given given'

theorem mem_ancestors_of_isOptions (given : IsOptions call options) : call ∈ options.ancestors := by
  obtain ⟨list, stands, _, above⟩ := standsIn_of_isOptions given
  exact mem_ancestors_trans stands.mem_ancestors (mem_ancestors_of_parent? above)

theorem Supplies.mem_ancestors (supplies : Supplies call object entry) :
    call ∈ object.ancestors := by
  cases supplies with
  | options given => exact mem_ancestors_of_isOptions given
  | headers given named =>
    obtain ⟨pair, stands, _, above⟩ := standsIn_of_isHeaders (kind_of_isOptions given) named
    exact mem_ancestors_trans (mem_ancestors_trans stands.mem_ancestors
      (mem_ancestors_of_parent? above)) (mem_ancestors_of_isOptions given)

/-- A finding that offers a fix is that of a missing header, and the fix goes into
the literal that it points at. -/
theorem supplies_of_verdict? {verdict : Verdict} {fix : Fix} (judged : verdict? call = some verdict)
    (offers : verdict.fix? = some fix) :
    ∃ object entry, Supplies call object entry ∧ verdict = missing object entry ∧
      Fix.insertEntry (some object) entry = .ok fix := by
  have of_missing (object : Node) (entry : String) (supplies : Supplies call object entry)
      (same : verdict = missing object entry) :
      ∃ object entry, Supplies call object entry ∧ verdict = missing object entry ∧
        Fix.insertEntry (some object) entry = .ok fix := by
    refine ⟨object, entry, supplies, same, ?_⟩
    subst same
    cases made : Fix.insertEntry (some object) entry with
    | error cause =>
      simp only [missing, made] at offers
      cases offers
    | ok found =>
      simp only [missing, made] at offers
      cases offers
      rfl
  obtain ⟨options, given, judged⟩ := Option.bind_eq_some_iff.1 judged
  rw [optionsVerdict?] at judged
  split at judged
  · split at judged
    · split at judged
      · cases judged
      · exact of_missing options headersEntry (.options given) (Option.some.inj judged).symm
    next pair found =>
      obtain ⟨headers, held, judged⟩ := Option.bind_eq_some_iff.1 judged
      rw [headersVerdict?] at judged
      split at judged
      · split at judged
        · cases judged
        · exact of_missing headers headerEntry (.headers given ⟨pair, found, held⟩)
            (Option.some.inj judged).symm
      · obtain ⟨value, _, judged⟩ := Option.bind_eq_some_iff.1 judged
        split at judged
        · cases judged
        · cases judged
          cases offers
  · cases judged

end RequestLint.JsonContentType
