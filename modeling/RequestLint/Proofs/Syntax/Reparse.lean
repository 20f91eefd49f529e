import RequestLint.Proofs.Syntax.Object
import RequestLint.Proofs.Syntax.Span
import Mathlib.Data.List.Forall2

/-! A tree before and after entries were added to some of its object literals.
Offsets may differ everywhere, and the text of a node that holds such a literal;
all else is as it was. What the analysis reads off an expression is the same
before and after, except that a literal has its new entry at the end. -/
namespace RequestLint.Node

section Lifted

variable {α β γ δ : Type} {R : α → β → Prop} {S : γ → δ → Prop}

theorem rel_bind {f : α → Option γ} {g : β → Option δ} {first : Option α} {second : Option β}
    (both : Option.Rel R first second) (step : ∀ a ∈ first, ∀ b, R a b → Option.Rel S (f a) (g b)) :
    Option.Rel S (first.bind f) (second.bind g) := by
  cases both with
  | none => exact .none
  | some both => exact step _ rfl _ both

theorem rel_filter {p : α → Bool} {q : β → Bool} {first : Option α} {second : Option β}
    (both : Option.Rel R first second) (agree : ∀ a b, R a b → q b = p a) :
    Option.Rel R (first.filter p) (second.filter q) := by
  cases both with
  | none => exact .none
  | some both =>
    rw [Option.filter_some, Option.filter_some, agree _ _ both]
    split
    · exact .some both
    · exact .none

theorem eq_none_of_rel_none {second : Option β} (both : Option.Rel R none second) :
    second = none := by
  cases both
  rfl

theorem exists_of_rel_some {a : α} {second : Option β} (both : Option.Rel R (some a) second) :
    ∃ b, second = some b ∧ R a b := by
  cases both with
  | some both => exact ⟨_, rfl, both⟩

theorem bind_of_rel {f : α → Option γ} {g : β → Option γ} {first : Option α} {second : Option β}
    (both : Option.Rel R first second) (agree : ∀ a b, R a b → g b = f a) :
    second.bind g = first.bind f := by
  cases both with
  | none => rfl
  | some both => exact agree _ _ both

theorem any_of_rel {p : α → Bool} {q : β → Bool} {first : Option α} {second : Option β}
    (both : Option.Rel R first second) (agree : ∀ a b, R a b → q b = p a) :
    second.any q = first.any p := by
  cases both with
  | none => rfl
  | some both => exact agree _ _ both

theorem map_of_rel {f : α → γ} {g : β → γ} {first : Option α} {second : Option β}
    (both : Option.Rel R first second) (agree : ∀ a ∈ first, ∀ b, R a b → g b = f a) :
    second.map g = first.map f := by
  cases both with
  | none => rfl
  | some both => rw [Option.map_some, Option.map_some, agree _ rfl _ both]

theorem rel_imp {R' : α → β → Prop} {first : Option α} {second : Option β}
    (both : Option.Rel R first second) (step : ∀ a ∈ first, ∀ b, R a b → R' a b) :
    Option.Rel R' first second := by
  cases both with
  | none => exact .none
  | some both => exact .some (step _ rfl _ both)

theorem forall₂_toList {first : Option α} {second : Option β} (both : Option.Rel R first second) :
    List.Forall₂ R first.toList second.toList := by
  cases both with
  | none => exact .nil
  | some both => exact .cons both .nil

variable {first : List α} {second : List β}

theorem rel_find? {p : α → Bool} {q : β → Bool} (both : List.Forall₂ R first second)
    (agree : ∀ a b, R a b → q b = p a) : Option.Rel R (first.find? p) (second.find? q) := by
  induction both with
  | nil => exact .none
  | cons both _ ih =>
    rw [List.find?_cons, List.find?_cons, agree _ _ both]
    split
    · exact .some both
    · exact ih

theorem forall₂_filter {p : α → Bool} {q : β → Bool} (both : List.Forall₂ R first second)
    (agree : ∀ a b, R a b → q b = p a) : List.Forall₂ R (first.filter p) (second.filter q) :=
  List.rel_filter (fun a b related => by simp only [agree a b related]) both

theorem any_of_forall₂ {p : α → Bool} {q : β → Bool} (both : List.Forall₂ R first second)
    (agree : ∀ a b, R a b → q b = p a) : second.any q = first.any p := by
  induction both with
  | nil => rfl
  | cons both _ ih => rw [List.any_cons, List.any_cons, agree _ _ both, ih]

theorem flatMap_of_forall₂ {f : α → List γ} {g : β → List γ} (both : List.Forall₂ R first second)
    (agree : ∀ a ∈ first, ∀ b, R a b → g b = f a) : second.flatMap g = first.flatMap f := by
  induction both with
  | nil => rfl
  | cons both _ ih =>
    rw [List.flatMap_cons, List.flatMap_cons, agree _ List.mem_cons_self _ both,
      ih fun a member => agree a (List.mem_cons_of_mem _ member)]

theorem rel_head? (both : List.Forall₂ R first second) :
    Option.Rel R first.head? second.head? := by
  cases both with
  | nil => exact .none
  | cons both _ => exact .some both

theorem rel_getLast? (both : List.Forall₂ R first second) :
    Option.Rel R first.getLast? second.getLast? := by
  rw [← List.head?_reverse, ← List.head?_reverse]
  exact rel_head? (List.rel_reverse both)

theorem rel_getElem? (both : List.Forall₂ R first second) (index : Nat) :
    Option.Rel R first[index]? second[index]? := by
  rw [← List.head?_drop, ← List.head?_drop]
  exact rel_head? (List.forall₂_drop index both)

end Lifted

theorem unwrap_eq_bind {node : Node} (wraps : node.isWrapper = true) :
    node.unwrap = node.firstPart?.bind unwrap := by
  rw [unwrap, if_pos wraps]
  split
  next part found => rw [found, Option.bind_some]
  next bare => rw [bare, Option.bind_none]

def wordKinds : List String :=
  ["identifier", "property_identifier", "shorthand_property_identifier", "number", "string"]

/-- A node whose text is read as it stands. No literal lies in it. -/
def isWord (node : Node) : Bool :=
  node.kind ∈ wordKinds || (node.kind = "template_string" && !node.hasSubstitution) ||
    node.field = "property"

/-- Two nodes say the same about themselves, up to offsets. -/
structure Alike (node node' : Node) : Prop where
  kind : node'.kind = node.kind
  named : node'.named = node.named
  field : node'.field = node.field
  hasError : node'.hasError = node.hasError
  text : node.isWord = true → node'.text = node.text

/-- All children that are no parts are childless. -/
def TokensBare (node : Node) : Prop :=
  ∀ inner ∈ node.children, inner ∉ node.parts → inner.children = []

/-- `Reparsed gain? copied node node'`: `node'` is `node` after literals have gained
entries. A literal that gains the entry `pair` has its old entries, in order, and
then one that is `copied` from `pair`; its tokens and comments may change. -/
inductive Reparsed (gain? : Node → Option Tree) (copied : Node → Node → Prop) : Node → Node → Prop
  | kept {node node' : Node} (alike : Alike node node') (plain : gain? node = none)
    (below : List.Forall₂ (Reparsed gain? copied) node.children node'.children) :
    Reparsed gain? copied node node'
  | grown {node node' entry : Node} {pair : Tree} {old : List Node} (alike : Alike node node')
    (gains : gain? node = some pair) (literal : node.kind = "object")
    (bare : node.TokensBare) (bare' : node'.TokensBare) (parts : node'.parts = old ++ [entry])
    (below : List.Forall₂ (Reparsed gain? copied) node.parts old)
    (added : copied (.root pair) entry) : Reparsed gain? copied node node'

/-- The same expression at another place. -/
def Copied : Node → Node → Prop := Reparsed (fun _ => none) fun _ _ => False

namespace Reparsed

variable {gain? : Node → Option Tree} {copied : Node → Node → Prop} {node node' : Node}

theorem alike (same : Reparsed gain? copied node node') : Alike node node' := by
  cases same with
  | kept alike => exact alike
  | grown alike => exact alike

theorem kind (same : Reparsed gain? copied node node') : node'.kind = node.kind := same.alike.kind

theorem children (same : Reparsed gain? copied node node') (other : node.kind ≠ "object") :
    List.Forall₂ (Reparsed gain? copied) node.children node'.children := by
  cases same with
  | kept _ _ below => exact below
  | grown _ _ literal => exact absurd literal other

theorem child? (same : Reparsed gain? copied node node') (other : node.kind ≠ "object")
    (field : String) :
    Option.Rel (Reparsed gain? copied) (node.child? field) (node'.child? field) :=
  rel_find? (same.children other) fun inner inner' same => by rw [same.alike.field]

theorem forall₂_parts (below : List.Forall₂ (Reparsed gain? copied) node.children node'.children) :
    List.Forall₂ (Reparsed gain? copied) node.parts node'.parts := by
  refine forall₂_filter (forall₂_filter below ?_) ?_
  · intro inner inner' same
    exact same.alike.named
  · intro inner inner' same
    rw [same.kind]

theorem parts (same : Reparsed gain? copied node node') (other : node.kind ≠ "object") :
    List.Forall₂ (Reparsed gain? copied) node.parts node'.parts :=
  forall₂_parts (same.children other)

theorem isWrapper (same : Reparsed gain? copied node node') : node'.isWrapper = node.isWrapper := by
  rw [Node.isWrapper, Node.isWrapper, same.kind]

theorem unwrap (same : Reparsed gain? copied node node') :
    Option.Rel (Reparsed gain? copied) node.unwrap node'.unwrap := by
  induction node using downward generalizing node' with
  | step node ih =>
    cases wraps : node.isWrapper with
    | false =>
      rw [unwrap_of_not_wrapper wraps, unwrap_of_not_wrapper (same.isWrapper.trans wraps)]
      exact .some same
    | true =>
      have other : node.kind ≠ "object" := by
        intro literal
        rw [isWrapper_of_kind literal (by decide)] at wraps
        cases wraps
      rw [unwrap_eq_bind wraps, unwrap_eq_bind (same.isWrapper.trans wraps)]
      refine rel_bind (rel_head? (same.parts other)) ?_
      intro inner found inner' same
      exact ih inner (mem_children_of_firstPart? found) same

theorem objectLiteral? (same : Reparsed gain? copied node node') :
    Option.Rel (Reparsed gain? copied) node.objectLiteral? node'.objectLiteral? :=
  rel_filter same.unwrap fun inner inner' same => by rw [same.kind]

theorem arguments (same : Reparsed gain? copied node node') (other : node.kind ≠ "object") :
    List.Forall₂ (Reparsed gain? copied) node.arguments node'.arguments := by
  have held := same.child? other "arguments"
  rw [Node.arguments, Node.arguments]
  revert held
  generalize node.child? "arguments" = first, node'.child? "arguments" = second
  intro held
  cases held with
  | none => exact .nil
  | @some list list' same =>
    simp only [same.kind]
    split
    next kind => exact same.parts (by simp [kind])
    next => exact .nil

theorem isSpread (same : Reparsed gain? copied node node') : node'.isSpread = node.isSpread := by
  rw [Node.isSpread, Node.isSpread, same.kind]

theorem argument? (same : Reparsed gain? copied node node') (other : node.kind ≠ "object")
    (index : Nat) :
    Option.Rel (Reparsed gain? copied) (node.argument? index) (node'.argument? index) := by
  have spread := any_of_forall₂ (List.forall₂_take (index + 1) (same.arguments other))
    fun inner inner' same => same.isSpread
  rw [Node.argument?, Node.argument?, spread]
  split
  · exact .none
  · exact rel_getElem? (same.arguments other) index

theorem text_of_wordKind (same : Reparsed gain? copied node node') (word : node.kind ∈ wordKinds) :
    node'.text = node.text :=
  same.alike.text (by simp [isWord, word])

theorem isName (same : Reparsed gain? copied node node') (name : String) :
    node'.isName name = node.isName name := by
  rw [Node.isName, Node.isName, same.kind]
  by_cases word : node.kind = "identifier"
  · rw [same.text_of_wordKind (by simp [word, wordKinds])]
  · simp [word]

theorem isTargetCall (same : Reparsed gain? copied node node') (target : String) :
    node'.isTargetCall target = node.isTargetCall target := by
  rw [Node.isTargetCall, Node.isTargetCall, same.kind]
  by_cases call : node.kind = "call_expression"
  · have callee := same.child? (by simp [call]) "function"
    rw [any_of_rel callee fun inner inner' same => same.isName target]
  · simp [call]

theorem member? (same : Reparsed gain? copied node node') :
    Option.Rel (fun found found' => Reparsed gain? copied found.1 found'.1 ∧ found'.2 = found.2)
      node.member? node'.member? := by
  rw [Node.member?, Node.member?, same.kind]
  split
  next access =>
    have other : node.kind ≠ "object" := by simp [access]
    refine rel_bind (same.child? other "object") fun object _ object' same' => ?_
    refine rel_bind (same.child? other "property") fun property found property' same'' => ?_
    have filled : property.field = "property" := by simpa using List.find?_some found
    exact .some ⟨same', same''.alike.text (by simp [isWord, filled])⟩
  next => exact .none

theorem isMemberCall (same : Reparsed gain? copied node node') (object method : String) :
    node'.isMemberCall object method = node.isMemberCall object method := by
  refine any_of_rel same.unwrap fun call call' same => ?_
  rw [same.kind]
  by_cases isCall : call.kind = "call_expression"
  · have called : Option.Rel _ call.calledMember? call'.calledMember? :=
      rel_bind (same.child? (by simp [isCall]) "function") fun callee _ callee' same => same.member?
    rw [any_of_rel called]
    rintro found found' ⟨same, property⟩
    rw [same.isName, property]
  · simp [isCall]

theorem hasSubstitution (same : Reparsed gain? copied node node') (other : node.kind ≠ "object") :
    node'.hasSubstitution = node.hasSubstitution :=
  any_of_forall₂ (same.parts other) fun inner inner' same => by rw [same.kind]

theorem unquoted (same : Reparsed gain? copied node node') (word : node.isWord = true) :
    node'.unquoted = node.unquoted := by
  rw [Node.unquoted, Node.unquoted, same.alike.text word]

theorem stringValue? (same : Reparsed gain? copied node node') :
    node'.stringValue? = node.stringValue? := by
  refine bind_of_rel same.unwrap fun literal literal' same => ?_
  rw [same.kind]
  split
  next text => rw [same.unquoted (by simp [isWord, wordKinds, text])]
  next =>
    by_cases template : literal.kind = "template_string"
    · rw [same.hasSubstitution (by simp [template])]
      split
      next plain => rw [same.unquoted (by simp [isWord, plain])]
      next => rfl
    · simp [template]

theorem entryKey? (same : Reparsed gain? copied node node') :
    node'.entryKey? = node.entryKey? := by
  rw [Node.entryKey?, Node.entryKey?, same.kind]
  split
  next short => rw [same.text_of_wordKind (by simp [short, wordKinds])]
  next =>
    split
    next pair =>
      refine bind_of_rel (same.child? (by simp [pair]) "key") fun key key' same => ?_
      rw [same.kind, same.stringValue?]
      split
      next word =>
        rw [same.text_of_wordKind (by revert word; simp only [wordKinds, List.mem_cons]; tauto)]
      next => rfl
    next => rfl

theorem hasKey (same : Reparsed gain? copied node node') (key : String) :
    node'.hasKey key = node.hasKey key := by
  rw [Node.hasKey, Node.hasKey, same.entryKey?]

theorem entryValue? (same : Reparsed gain? copied node node') (other : node.kind ≠ "object") :
    Option.Rel (Reparsed gain? copied) node.entryValue? node'.entryValue? := by
  rw [Node.entryValue?, Node.entryValue?, same.kind]
  split
  · exact .some same
  · exact same.child? other "value"

theorem isDynamicEntry (same : Reparsed gain? copied node node') :
    node'.isDynamicEntry = node.isDynamicEntry := by
  rw [Node.isDynamicEntry, Node.isDynamicEntry, same.isSpread, same.kind]
  by_cases keyed : node.kind ∈ ["pair", "method_definition"]
  · have other : node.kind ≠ "object" := by
      rintro literal
      rw [literal] at keyed
      revert keyed
      decide
    have named : Option.Rel (Reparsed gain? copied) ((node.child? "key").or (node.child? "name"))
        ((node'.child? "key").or (node'.child? "name")) := by
      have first := same.child? other "key"
      revert first
      generalize node.child? "key" = key, node'.child? "key" = key'
      intro first
      cases first with
      | none => exact same.child? other "name"
      | some same => exact .some same
    rw [any_of_rel named fun inner inner' same => by rw [same.kind]]
  · simp [keyed]

/-- The entries of a literal are its old ones, and one more if it gains one. -/
theorem entries (same : Reparsed gain? copied node node') (literal : node.kind = "object") :
    (gain? node = none ∧ List.Forall₂ (Reparsed gain? copied) node.entries node'.entries) ∨
      ∃ pair entry old, gain? node = some pair ∧ copied (.root pair) entry ∧
        node'.entries = old ++ [entry] ∧ List.Forall₂ (Reparsed gain? copied) node.entries old := by
  rw [entries_of_object literal, entries_of_object (same.kind.trans literal)]
  cases same with
  | kept _ plain below => exact Or.inl ⟨plain, forall₂_parts below⟩
  | @grown _ _ entry pair old _ gains _ _ _ parts below added =>
    exact Or.inr ⟨pair, entry, old, gains, added, parts, below⟩

/-- What is looked up is found as before, unless it is a new entry. -/
theorem lookup? (same : Reparsed gain? copied node node') (literal : node.kind = "object")
    (key : String) :
    Option.Rel (Reparsed gain? copied) (node.lookup? key) (node'.lookup? key) ∧
        (∀ pair, gain? node = some pair →
          ∃ entry, copied (.root pair) entry ∧ entry.hasKey key = false) ∨
      ∃ pair entry, gain? node = some pair ∧ copied (.root pair) entry ∧
        entry.hasKey key = true ∧ node'.lookup? key = some entry := by
  rw [Node.lookup?, Node.lookup?]
  rcases same.entries literal with ⟨plain, below⟩ | ⟨pair, entry, old, gains, added, parts, below⟩
  · refine Or.inl ⟨rel_getLast? (forall₂_filter below fun _ _ same => same.hasKey key), ?_⟩
    intro pair gains
    cases plain.symm.trans gains
  · rw [parts, List.filter_append]
    cases keyed : entry.hasKey key with
    | true =>
      have last : [entry].filter (·.hasKey key) = [entry] := by simp [keyed]
      refine Or.inr ⟨pair, entry, gains, added, keyed, ?_⟩
      rw [last, List.getLast?_concat]
    | false =>
      have last : [entry].filter (·.hasKey key) = [] := by simp [keyed]
      rw [last, List.append_nil]
      refine Or.inl ⟨rel_getLast? (forall₂_filter below fun _ _ same => same.hasKey key), ?_⟩
      intro pair' gains'
      cases gains.symm.trans gains'
      exact ⟨entry, added, keyed⟩

/-- What is looked up is a pair or a shorthand, so its value is what it was. -/
theorem value_of_lookup? {key : String} {object entry entry' : Node}
    (same : Reparsed gain? copied entry entry') (found : object.lookup? key = some entry) :
    Option.Rel (Reparsed gain? copied) entry.entryValue? entry'.entryValue? := by
  refine same.entryValue? ?_
  rcases kind_of_hasKey (mem_entries_of_lookup? found).2 with kind | kind
  · simp [kind]
  · simp [kind]

theorem stringValue_of_lookup? {key : String} {object entry entry' : Node}
    (same : Reparsed gain? copied entry entry') (found : object.lookup? key = some entry) :
    entry'.entryValue?.bind Node.stringValue? = entry.entryValue?.bind Node.stringValue? :=
  bind_of_rel (same.value_of_lookup? found) fun _ _ same => same.stringValue?

theorem hasDynamicEntry (same : Reparsed gain? copied node node') (literal : node.kind = "object")
    (plain : gain? node = none) : node'.hasDynamicEntry = node.hasDynamicEntry := by
  rcases same.entries literal with ⟨_, below⟩ | ⟨pair, _, _, gains, _⟩
  · exact any_of_forall₂ below fun _ _ same => same.isDynamicEntry
  · cases plain.symm.trans gains

end Reparsed

/-- The calls of the target below a node, in pre-order. -/
def targetCalls (target : String) (node : Node) : List Node :=
  node.preorder.filter (isTargetCall target)

theorem targetCalls_eq (target : String) (node : Node) :
    node.targetCalls target =
      [node].filter (isTargetCall target) ++ node.children.flatMap (targetCalls target) := by
  rw [targetCalls, preorder_eq, ← List.singleton_append, List.filter_append, List.filter_flatMap]
  rfl

theorem targetCalls_of_childless {target : String} {node : Node} (childless : node.children = []) :
    node.targetCalls target = [] := by
  have callee : (node.child? "function").any (·.isName target) = false := by
    rw [child?, childless]
    rfl
  rw [targetCalls_eq, childless, List.flatMap_nil, List.append_nil, List.filter_cons_of_neg]
  · rfl
  · rw [isTargetCall, callee, Bool.and_false]
    exact Bool.false_ne_true

/-- Among tokens and comments there are no calls. -/
theorem targetCalls_of_object {target : String} {node : Node} (literal : node.kind = "object")
    (bare : node.TokensBare) :
    node.targetCalls target = node.parts.flatMap (targetCalls target) := by
  have noCall : [node].filter (isTargetCall target) = [] := by simp [isTargetCall, literal]
  have parts : node.parts = node.children.filter fun inner =>
      inner.kind != "comment" && inner.named := by
    rw [Node.parts, namedChildren, List.filter_filter]
  have skipped (inner : Node) (member : inner ∈ node.children)
      (token : ¬ (inner.kind != "comment" && inner.named) = true) :
      inner.targetCalls target = [] := by
    refine targetCalls_of_childless (bare inner member fun part => token ?_)
    rw [parts] at part
    exact (List.mem_filter.1 part).2
  rw [targetCalls_eq, noCall, List.nil_append, parts]
  revert skipped
  generalize node.children = children
  intro skipped
  induction children with
  | nil => rfl
  | cons inner rest ih =>
    rw [List.flatMap_cons, List.filter_cons,
      ih fun other member => skipped other (List.mem_cons_of_mem _ member)]
    split
    · rw [List.flatMap_cons]
    next token => rw [skipped inner List.mem_cons_self token, List.nil_append]

namespace Reparsed

variable {gain? : Node → Option Tree} {copied : Node → Node → Prop} {node node' : Node}

theorem forall₂_flatMap {target : String} {nodes nodes' : List Node}
    (both : List.Forall₂ (Reparsed gain? copied) nodes nodes')
    (ih : ∀ node ∈ nodes, ∀ node', Reparsed gain? copied node node' →
      List.Forall₂ (Reparsed gain? copied) (node.targetCalls target) (node'.targetCalls target)) :
    List.Forall₂ (Reparsed gain? copied) (nodes.flatMap (Node.targetCalls target))
      (nodes'.flatMap (Node.targetCalls target)) := by
  induction both with
  | nil => exact .nil
  | cons same _ rest =>
    rw [List.flatMap_cons, List.flatMap_cons]
    refine List.rel_append (ih _ List.mem_cons_self _ same) (rest ?_)
    exact fun node member => ih node (List.mem_cons_of_mem _ member)

/-- The requests of a tree are those that it had before, in their order. -/
theorem targetCalls {target : String}
    (silent : ∀ node pair entry, gain? node = some pair → copied (.root pair) entry →
      entry.targetCalls target = [])
    (same : Reparsed gain? copied node node') :
    List.Forall₂ (Reparsed gain? copied) (node.targetCalls target) (node'.targetCalls target) := by
  induction node using downward generalizing node' with
  | step node ih =>
    cases same with
    | kept alike plain below =>
      have self : Reparsed gain? copied node node' := .kept alike plain below
      rw [targetCalls_eq, targetCalls_eq]
      refine List.rel_append ?_ (forall₂_flatMap below fun inner member _ => ih inner member)
      exact forall₂_filter (.cons self .nil) fun _ _ same => same.isTargetCall target
    | @grown _ _ entry pair old alike gains literal bare bare' parts below added =>
      rw [targetCalls_of_object literal bare,
        targetCalls_of_object (alike.kind.trans literal) bare', parts, List.flatMap_append,
        List.flatMap_singleton, silent node pair entry gains added, List.append_nil]
      exact forall₂_flatMap below fun inner member _ => ih inner (mem_parts_iff.1 member).1

end Reparsed

instance (node node' : Node) : Decidable (Alike node node') :=
  decidable_of_iff (node'.kind = node.kind ∧ node'.named = node.named ∧ node'.field = node.field ∧
      node'.hasError = node.hasError ∧ (node.isWord = true → node'.text = node.text))
    ⟨fun ⟨kind, named, field, hasError, text⟩ => ⟨kind, named, field, hasError, text⟩,
      fun ⟨kind, named, field, hasError, text⟩ => ⟨kind, named, field, hasError, text⟩⟩

instance (node : Node) : Decidable node.TokensBare := by
  unfold TokensBare
  infer_instance

/-- Compares two nodes as `Reparsed` does. -/
def reparses (gain? : Node → Option Tree) (copied : Node → Node → Bool) (node node' : Node) :
    Bool :=
  decide (Alike node node') &&
    match gain? node with
    | none =>
      node.children.length = node'.children.length &&
        (node.children.attach.zip node'.children).all fun (inner, inner') =>
          reparses gain? copied inner.1 inner'
    | some pair =>
      node.kind = "object" && decide node.TokensBare && decide node'.TokensBare &&
        node.parts.length = node'.parts.dropLast.length &&
        ((node.parts.attach.zip node'.parts.dropLast).all fun (inner, inner') =>
          reparses gain? copied inner.1 inner') &&
        node'.parts.getLast?.any (copied (.root pair))
termination_by node.size
decreasing_by
  · exact size_lt_of_mem_children inner.2
  · exact size_lt_of_mem_parts inner.2

theorem forall₂_of_all {R : Node → Node → Prop} {test : Node → Node → Bool}
    {first second : List Node} (length : first.length = second.length)
    (all : ((first.attach.zip second).all fun (inner, inner') => test inner.1 inner') = true)
    (sound : ∀ inner ∈ first, ∀ inner', test inner inner' = true → R inner inner') :
    List.Forall₂ R first second := by
  refine List.forall₂_iff_zip.2 ⟨length, ?_⟩
  intro inner inner' paired
  rw [← List.attach_map_subtype_val first, List.zip_map_left] at paired
  obtain ⟨⟨⟨one, member⟩, other⟩, among, same⟩ := List.mem_map.1 paired
  cases same
  exact sound one member other (List.all_eq_true.1 all _ among)

theorem reparsed_of_reparses {gain? : Node → Option Tree} {copied : Node → Node → Prop}
    {test : Node → Node → Bool} (sound : ∀ node node', test node node' = true → copied node node')
    {node node' : Node} (checked : reparses gain? test node node' = true) :
    Reparsed gain? copied node node' := by
  induction node using downward generalizing node' with
  | step node ih =>
    rw [reparses, Bool.and_eq_true, decide_eq_true_eq] at checked
    obtain ⟨alike, checked⟩ := checked
    split at checked
    next plain =>
      rw [Bool.and_eq_true, decide_eq_true_eq] at checked
      exact .kept alike plain
        (forall₂_of_all checked.1 checked.2 fun inner member _ => ih inner member)
    next pair gains =>
      simp only [Bool.and_eq_true, decide_eq_true_eq, Option.any_eq_true] at checked
      obtain ⟨⟨⟨⟨⟨literal, bare⟩, bare'⟩, length⟩, below⟩, entry, last, added⟩ := checked
      refine .grown alike gains literal bare bare' (List.dropLast_append_getLast? entry last).symm
        ?_ (sound _ _ added)
      exact forall₂_of_all length below fun inner member _ => ih inner (mem_parts_iff.1 member).1

end RequestLint.Node
