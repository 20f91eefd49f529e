import RequestLint.Syntax.Object
import RequestLint.Syntax.Search
import RequestLint.Proofs.Parentheses.Edit
import RequestLint.Proofs.Syntax.Pattern

/-! What is read off an expression going down. Whoever asks for the value of an
expression looks through its wrappers, so the parentheses are passed like any
other. Where a node is read as it stands, it is not the expression. -/
namespace RequestLint.Edit
open Node

/-- The same expression, wrappers apart. -/
def Reads (edit : Edit) (node node' : Node) : Prop :=
  Option.Rel edit.Copied node.unwrap node'.unwrap

/-- The same access to a property. If its object is the expression in parentheses, the
property is one that responses are asked for. -/
structure Accessed (edit : Edit) (found found' : Node × String) : Prop where
  object : edit.Stands found.1 found'.1
  property : found'.2 = found.2
  asked : found.1 = edit.expr → found.2 ∈ "get" :: responseProperties

namespace Parenthesises

variable {edit : Edit} (wraps : edit.Parenthesises) {node node' copy place : Node}
include wraps

theorem isWrapper (copied : edit.Copied node copy) : copy.isWrapper = node.isWrapper := by
  rw [Node.isWrapper, Node.isWrapper, wraps.kind_of_copied copied]

omit wraps in
theorem isClosed_of_isWrapper (wrapper : node.isWrapper = true) : isClosed node.kind = true := by
  have each : ∀ kind ∈ wrapperKinds, isClosed kind = true := by decide
  exact each _ (of_decide_eq_true wrapper)

theorem reads_of_copied (copied : edit.Copied node copy) : edit.Reads node copy := by
  induction node using downward generalizing copy with
  | step node ih =>
    have same := wraps.isWrapper copied
    cases wrapper : node.isWrapper with
    | false =>
      rw [Reads, unwrap_of_not_wrapper wrapper, unwrap_of_not_wrapper (same.trans wrapper)]
      exact .some copied
    | true =>
      rw [Reads, unwrap_eq_bind wrapper, unwrap_eq_bind (same.trans wrapper)]
      have parts := wraps.closedParts copied rfl (isClosed_of_isWrapper wrapper)
      refine rel_bind (rel_head? parts) fun inner found inner' copied => ?_
      exact ih inner (mem_children_of_firstPart? found) copied

theorem reads_of_stands (stands : edit.Stands node place) : edit.Reads node place := by
  by_cases same : node = edit.expr
  · subst same
    obtain ⟨inner, copied, _, found⟩ := wraps.exists_inner stands
    have wrapper : place.isWrapper = true := by
      simp [Node.isWrapper, (wraps.parentheses place stands).kind, wrapperKinds]
    rw [Reads, unwrap_of_wrapper wrapper found]
    exact wraps.reads_of_copied copied
  · exact wraps.reads_of_copied (stands.copied same)

theorem unwrapAwait (reads : edit.Reads node node') :
    Option.Rel edit.Copied node.unwrapAwait node'.unwrapAwait := by
  refine rel_bind reads fun inner _ inner' copied => ?_
  rw [wraps.kind_of_copied copied]
  split
  · exact rel_bind (rel_head? (wraps.parts copied)) fun _ _ _ stands => wraps.reads_of_stands stands
  · exact .some copied

theorem arguments (copied : edit.Copied node copy) :
    List.Forall₂ edit.Stands node.arguments copy.arguments := by
  have held := wraps.child? copied "arguments"
  rw [Node.arguments, Node.arguments]
  revert held
  generalize node.child? "arguments" = first, copy.child? "arguments" = second
  intro held
  cases held with
  | none => exact .nil
  | @some list list' stands =>
    have kind : list'.kind = "arguments" ↔ list.kind = "arguments" :=
      wraps.kind_iff stands (by decide)
    simp only [kind]
    split
    next isList =>
      have other : list ≠ edit.expr := by
        rintro rfl
        exact wraps.expression (by simp [otherKinds, isList])
      exact wraps.parts (stands.copied other)
    next => exact .nil

theorem argument? (copied : edit.Copied node copy) (index : Nat) :
    Option.Rel edit.Stands (node.argument? index) (copy.argument? index) := by
  have given := wraps.arguments copied
  have spread := any_of_forall₂ (List.forall₂_take (index + 1) given)
    fun _ _ stands => wraps.isSpread stands
  rw [Node.argument?, Node.argument?, spread]
  split
  · exact .none
  · exact rel_getElem? given index

theorem text_of_word (copied : edit.Copied node copy) (word : node.isWord = true) :
    copy.text = node.text :=
  (wraps.akin _ _ copied).text (by simp [isSpelled, word])

theorem text_of_kind (copied : edit.Copied node copy) (word : node.kind ∈ wordKinds) :
    copy.text = node.text :=
  wraps.text_of_word copied (by simp [isWord, word])

theorem isName (copied : edit.Copied node copy) (name : String) :
    copy.isName name = node.isName name := by
  rw [Node.isName, Node.isName, wraps.kind_of_copied copied]
  by_cases word : node.kind = "identifier"
  · rw [wraps.text_of_kind copied (by simp [word, wordKinds])]
  · simp [word]

theorem callee (copied : edit.Copied node copy) (call : node.kind = "call_expression") :
    Option.Rel edit.Copied (node.child? "function") (copy.child? "function") :=
  wraps.closedChild? copied call (by decide)

theorem isTargetCall (copied : edit.Copied node copy) (target : String) :
    copy.isTargetCall target = node.isTargetCall target := by
  rw [Node.isTargetCall, Node.isTargetCall, wraps.kind_of_copied copied]
  by_cases call : node.kind = "call_expression"
  · rw [any_of_rel (wraps.callee copied call) fun _ _ copied => wraps.isName copied target]
  · simp [call]

/-- If the expression is the object of an access, the property is one of those listed. -/
theorem property_of_held {outer : Node} {property : String}
    (found : outer.member? = some (edit.expr, property)) :
    property ∈ "get" :: responseProperties := by
  obtain ⟨kind, object, _⟩ := member?_eq_some_iff.1 found
  obtain ⟨around, parent, holds⟩ := wraps.held
  cases (parent?_of_child? object).symm.trans parent
  cases holds with
  | argument other => simp [kind] at other
  | entry other => simp [kind] at other
  | response found' listed =>
    cases found.symm.trans found'
    exact List.mem_cons_of_mem _ listed
  | headers found' =>
    cases found.symm.trans found'
    exact List.mem_cons_self
  | value listed =>
    rw [kind] at listed
    simp [valueFields] at listed
  | awaited other => simp [kind] at other
  | operand sum => simp [sum?, kind] at sum
  | statement other => simp [kind] at other

theorem member? (copied : edit.Copied node copy) :
    Option.Rel edit.Accessed node.member? copy.member? := by
  by_cases access : node.kind = "member_expression"
  · have named : Option.Rel edit.Copied (node.child? "property") (copy.child? "property") :=
      wraps.closedChild? copied access (by decide)
    have reached : ∀ {object property : Node}, node.child? "object" = some object →
        node.child? "property" = some property → node.member? = some (object, property.text) := by
      intro object property found found'
      exact member?_eq_some_iff.2 ⟨access, found, property, found', rfl⟩
    rw [Node.member?, Node.member?, wraps.kind_of_copied copied, if_pos access, if_pos access]
    refine rel_bind (wraps.child? copied "object") fun object found object' stands => ?_
    refine rel_bind named fun property found' property' copied => ?_
    have filled : property.field = "property" := by simpa using List.find?_some found'
    refine .some ⟨stands, wraps.text_of_word copied (by simp [isWord, filled]), ?_⟩
    rintro rfl
    exact wraps.property_of_held (reached found found')
  · have access' : ¬ copy.kind = "member_expression" := by
      rwa [wraps.kind_of_copied copied]
    rw [Node.member?, Node.member?, if_neg access, if_neg access']
    exact .none

theorem calledMember? (copied : edit.Copied node copy) (call : node.kind = "call_expression") :
    Option.Rel edit.Accessed node.calledMember? copy.calledMember? :=
  rel_bind (wraps.callee copied call) fun _ _ _ copied => wraps.member? copied

theorem methodName? (copied : edit.Copied node copy) : copy.methodName? = node.methodName? := by
  rw [Node.methodName?, Node.methodName?, wraps.kind_of_copied copied]
  split
  next call =>
    exact map_of_rel (wraps.calledMember? copied call) fun _ _ _ accessed => accessed.property
  next => rfl

theorem receiver? (copied : edit.Copied node copy) (call : node.kind = "call_expression") :
    Option.Rel edit.Copied node.receiver? copy.receiver? :=
  rel_bind (wraps.calledMember? copied call) fun _ _ _ accessed =>
    wraps.reads_of_stands accessed.object

theorem isContinuation (copied : edit.Copied node copy) :
    copy.isContinuation = node.isContinuation := by
  rw [Node.isContinuation, Node.isContinuation, wraps.methodName? copied]

/-- A method that responses are not asked for is called of an object as it stands. -/
theorem isMemberCall (reads : edit.Reads node node') (object : String) {method : String}
    (other : method ∉ "get" :: responseProperties) :
    node'.isMemberCall object method = node.isMemberCall object method := by
  refine any_of_rel reads fun call call' copied => ?_
  rw [wraps.kind_of_copied copied]
  by_cases isCall : call.kind = "call_expression"
  · have called := wraps.calledMember? copied isCall
    rw [any_of_rel called]
    intro found found' accessed
    rw [accessed.property]
    by_cases same : found.2 = method
    · have plain : found.1 ≠ edit.expr := fun held => other (same ▸ accessed.asked held)
      rw [wraps.isName (accessed.object.copied plain)]
    · simp [same]
  · simp [isCall]

theorem isJsonSerialization (reads : edit.Reads node node') :
    node'.isJsonSerialization = node.isJsonSerialization :=
  wraps.isMemberCall reads "JSON" (by decide)

theorem isConstruction (copied : edit.Copied node copy) (name : String) :
    copy.isConstruction name = node.isConstruction name := by
  rw [Node.isConstruction, Node.isConstruction, wraps.kind_of_copied copied]
  by_cases isNew : node.kind = "new_expression"
  · have constructed : Option.Rel edit.Copied (node.child? "constructor")
        (copy.child? "constructor") := wraps.closedChild? copied isNew (by decide)
    rw [any_of_rel constructed fun _ _ copied => wraps.isName copied name]
  · simp [isNew]

theorem hasSubstitution (copied : edit.Copied node copy)
    (template : node.kind = "template_string") :
    copy.hasSubstitution = node.hasSubstitution :=
  any_of_forall₂ (wraps.closedParts copied template (by decide)) fun _ _ copied => by
    rw [wraps.kind_of_copied copied]

theorem unquoted (copied : edit.Copied node copy) (word : node.isWord = true) :
    copy.unquoted = node.unquoted := by
  rw [Node.unquoted, Node.unquoted, wraps.text_of_word copied word]

theorem stringValue? (reads : edit.Reads node node') :
    node'.stringValue? = node.stringValue? := by
  refine bind_of_rel reads fun literal literal' copied => ?_
  rw [wraps.kind_of_copied copied]
  split
  next text => rw [wraps.unquoted copied (by simp [isWord, wordKinds, text])]
  next =>
    by_cases template : literal.kind = "template_string"
    · rw [wraps.hasSubstitution copied template]
      split
      next plain => rw [wraps.unquoted copied (by simp [isWord, plain])]
      next => rfl
    · simp [template]

theorem objectLiteral? (reads : edit.Reads node node') :
    Option.Rel edit.Copied node.objectLiteral? node'.objectLiteral? :=
  rel_filter reads fun _ _ copied => by rw [wraps.kind_of_copied copied]

theorem entries (reads : edit.Reads node node') :
    List.Forall₂ edit.Copied node.entries node'.entries := by
  have literal := wraps.objectLiteral? reads
  rw [Node.entries, Node.entries]
  revert literal
  cases found : node.objectLiteral? with
  | none =>
    intro literal
    rw [eq_none_of_rel_none literal]
    exact .nil
  | some object =>
    intro literal
    obtain ⟨object', found', copied⟩ := exists_of_rel_some literal
    rw [found']
    exact wraps.closedParts copied (objectLiteral?_eq_some_iff.1 found).2 (by decide)

theorem entryKey? (copied : edit.Copied node copy) : copy.entryKey? = node.entryKey? := by
  rw [Node.entryKey?, Node.entryKey?, wraps.kind_of_copied copied]
  split
  next short => rw [wraps.text_of_kind copied (by simp [short, wordKinds])]
  next =>
    split
    next pair =>
      have keyed : Option.Rel edit.Copied (node.child? "key") (copy.child? "key") :=
        wraps.closedChild? copied pair (by decide)
      refine bind_of_rel keyed fun key key' copied => ?_
      rw [wraps.kind_of_copied copied, wraps.stringValue? (wraps.reads_of_copied copied)]
      split
      next word =>
        rw [wraps.text_of_kind copied (by revert word; simp only [wordKinds, List.mem_cons]; tauto)]
      next => rfl
    next => rfl

theorem hasKey (copied : edit.Copied node copy) (key : String) :
    copy.hasKey key = node.hasKey key := by
  rw [Node.hasKey, Node.hasKey, wraps.entryKey? copied]

theorem lookup? (reads : edit.Reads node node') (key : String) :
    Option.Rel edit.Copied (node.lookup? key) (node'.lookup? key) :=
  rel_getLast? (forall₂_filter (wraps.entries reads) fun _ _ copied => wraps.hasKey copied key)

theorem entryValue? (copied : edit.Copied node copy) :
    Option.Rel edit.Reads node.entryValue? copy.entryValue? := by
  rw [Node.entryValue?, Node.entryValue?, wraps.kind_of_copied copied]
  split
  · exact .some (wraps.reads_of_copied copied)
  · exact rel_imp (wraps.child? copied "value") fun _ _ _ stands => wraps.reads_of_stands stands

theorem value? (reads : edit.Reads node node') (key : String) :
    Option.Rel edit.Reads (node.value? key) (node'.value? key) :=
  rel_bind (wraps.lookup? reads key) fun _ _ _ copied => wraps.entryValue? copied

theorem isDynamicEntry (copied : edit.Copied node copy) :
    copy.isDynamicEntry = node.isDynamicEntry := by
  rw [Node.isDynamicEntry, Node.isDynamicEntry, Node.isSpread, Node.isSpread,
    wraps.kind_of_copied copied]
  by_cases keyed : node.kind ∈ ["pair", "method_definition"]
  · have closed {field : String} (listed : field ∈ ["key", "name"]) :
        mayHold node.kind field = false := by
      have each : ∀ kind ∈ ["pair", "method_definition"], ∀ field ∈ ["key", "name"],
          mayHold kind field = false := by decide
      exact each _ keyed _ listed
    have named : Option.Rel edit.Copied ((node.child? "key").or (node.child? "name"))
        ((copy.child? "key").or (copy.child? "name")) := by
      have first := wraps.closedChild? copied rfl (@closed "key" (by simp))
      revert first
      generalize node.child? "key" = key, copy.child? "key" = key'
      intro first
      cases first with
      | none => exact wraps.closedChild? copied rfl (closed (by simp))
      | some copied => exact .some copied
    rw [any_of_rel named fun _ _ copied => by rw [wraps.kind_of_copied copied]]
  · simp [keyed]

theorem hasDynamicEntry (reads : edit.Reads node node') :
    node'.hasDynamicEntry = node.hasDynamicEntry :=
  any_of_forall₂ (wraps.entries reads) fun _ _ copied => wraps.isDynamicEntry copied

theorem sum? (copied : edit.Copied node copy) :
    Option.Rel (fun sides sides' => Option.Rel edit.Stands sides.1 sides'.1 ∧
      Option.Rel edit.Stands sides.2 sides'.2) node.sum? copy.sum? := by
  rw [Node.sum?, Node.sum?, wraps.kind_of_copied copied]
  by_cases binary : node.kind = "binary_expression"
  · have operator : Option.Rel edit.Copied (node.child? "operator") (copy.child? "operator") :=
      wraps.closedChild? copied binary (by decide)
    rw [any_of_rel operator fun _ _ copied => by rw [wraps.kind_of_copied copied]]
    split
    · exact .some ⟨wraps.child? copied "left", wraps.child? copied "right"⟩
    · exact .none
  · simp only [binary, false_and, if_false]
    exact .none

theorem operandsOf {waiting waiting' : List Node}
    (both : List.Forall₂ edit.Reads waiting waiting') :
    List.Forall₂ edit.Copied (Node.operandsOf waiting) (Node.operandsOf waiting') := by
  induction waiting using Node.operandsOf.induct generalizing waiting' with
  | case1 =>
    cases both
    rw [Node.operandsOf]
    exact .nil
  | case2 node waiting bare ih =>
    cases both with
    | cons reads rest =>
      rw [Reads, bare] at reads
      rw [operandsOf_cons, operandsOf_cons, bare, eq_none_of_rel_none reads]
      exact ih rest
  | case3 node waiting inner opened left right split ih =>
    cases both with
    | cons reads rest =>
      rw [Reads, opened] at reads
      obtain ⟨inner', opened', copied⟩ := exists_of_rel_some reads
      have sides := wraps.sum? copied
      rw [split] at sides
      obtain ⟨⟨left', right'⟩, split', leftSide, rightSide⟩ := exists_of_rel_some sides
      rw [operandsOf_cons, operandsOf_cons, opened, opened']
      simp only [split, split']
      have held := List.rel_append (forall₂_toList leftSide) (forall₂_toList rightSide)
      exact ih (List.rel_append (held.imp fun _ _ => wraps.reads_of_stands) rest)
  | case4 node waiting inner opened single ih =>
    cases both with
    | cons reads rest =>
      rw [Reads, opened] at reads
      obtain ⟨inner', opened', copied⟩ := exists_of_rel_some reads
      have sides := wraps.sum? copied
      rw [single] at sides
      rw [operandsOf_cons, operandsOf_cons, opened, opened']
      simp only [single, eq_none_of_rel_none sides]
      exact .cons copied (ih rest)

theorem operands (copied : edit.Copied node copy) :
    List.Forall₂ edit.Copied node.operands copy.operands :=
  wraps.operandsOf (.cons (wraps.reads_of_copied copied) .nil)

theorem isVariablePart (copied : edit.Copied node copy) :
    copy.isVariablePart = node.isVariablePart := by
  rw [Node.isVariablePart, Node.isVariablePart, wraps.kind_of_copied copied,
    wraps.stringValue? (wraps.reads_of_copied copied)]

theorem isDynamicText (reads : edit.Reads node node') :
    node'.isDynamicText = node.isDynamicText := by
  refine any_of_rel reads fun inner inner' copied => ?_
  have operands := wraps.operands copied
  rw [wraps.kind_of_copied copied, ← operands.length_eq,
    any_of_forall₂ operands fun _ _ copied => wraps.isVariablePart copied]
  by_cases template : inner.kind = "template_string"
  · rw [wraps.hasSubstitution copied template]
  · simp [template]

theorem boundNames (copied : edit.Copied node copy) : copy.boundNames = node.boundNames := by
  induction node using downward generalizing copy with
  | step node ih =>
    have closed {kind field : String} (is : node.kind = kind) (shut : mayHold kind field = false) :
        (copy.child? field).map Node.boundNames = (node.child? field).map Node.boundNames := by
      refine map_of_rel (wraps.closedChild? copied is shut) fun inner found inner' copied => ?_
      exact ih inner (mem_children_of_child? found) copied
    rw [boundNames_eq, boundNames_eq, wraps.kind_of_copied copied]
    split
    next word =>
      rw [(wraps.akin _ _ copied).text]
      rcases List.mem_pair.1 word with kind | kind
      · simp [isSpelled, isWord, wordKinds, kind]
      · simp [isSpelled, kind]
    · split
      next assigned => rw [closed assigned (by decide)]
      · split
        next parameter =>
          rcases List.mem_pair.1 parameter with kind | kind
          · rw [closed kind (by decide)]
          · rw [closed kind (by decide)]
        · split
          next pair => rw [closed pair (by decide)]
          · split
            next several =>
              have each : ∀ kind ∈ ["object_pattern", "array_pattern", "rest_pattern"],
                  isClosed kind = true := by decide
              refine flatMap_of_forall₂ (wraps.closedParts copied rfl (each _ several)) ?_
              intro inner member inner' copied
              exact ih inner (mem_parts_iff.1 member).1 copied
            · rfl

theorem parameters (copied : edit.Copied node copy) (function : node.isFunctionLike = true) :
    List.Forall₂ edit.Copied node.parameters copy.parameters := by
  have shut (field : String) : mayHold node.kind field = false := by
    have each : ∀ kind ∈ functionKinds, isClosed kind = true := by decide
    exact mayHold_of_isClosed (each _ (of_decide_eq_true function)) field
  have single := wraps.closedChild? copied rfl (shut "parameter")
  have several := wraps.closedChild? copied rfl (shut "parameters")
  have plain := wraps.noParameter node function
  rw [Node.parameters] at plain
  rw [Node.parameters, Node.parameters]
  revert plain single
  generalize node.child? "parameter" = first, copy.child? "parameter" = second
  intro single plain
  cases single with
  | some copied => exact .cons copied .nil
  | none =>
    revert plain several
    generalize node.child? "parameters" = first, copy.child? "parameters" = second
    intro several plain
    cases several with
    | none => exact .nil
    | some copied => exact forall₂_copied (wraps.parts copied) plain

/-- A search finds in what became of a node what it finds in the node, if that holds of
its children. -/
theorem holds_of_children {reach : Reach} {test : Node → Bool}
    (skips : ∀ node copy, edit.Copied node copy → reach.skip copy = reach.skip node)
    (tests : ∀ node copy, edit.Copied node copy → test copy = test node)
    (copied : edit.Copied node copy)
    (below : ∀ inner ∈ node.namedChildren, ∀ place, edit.Stands inner place →
      place.holds reach test = inner.holds reach test) :
    copy.holds reach test = node.holds reach test := by
  have listed := (List.forall₂_and_left node.namedChildren copy.namedChildren).2
    ⟨fun _ member => member, wraps.namedChildren copied⟩
  have inside : copy.namedChildren.any (Node.holds reach test) =
      node.namedChildren.any (Node.holds reach test) :=
    any_of_forall₂ listed fun inner place both => below inner both.1 place both.2
  rw [holds_eq, holds_eq, skips _ _ copied, tests _ _ copied, Node.isFunctionLike,
    Node.isFunctionLike, wraps.kind_of_copied copied, inside]

/-- A search finds in parentheses what it finds in the expression, if it passes through
them. -/
theorem holds_of_stands {reach : Reach} {test : Node → Bool}
    (skips : ∀ node copy, edit.Copied node copy → reach.skip copy = reach.skip node)
    (tests : ∀ node copy, edit.Copied node copy → test copy = test node)
    (passes : ∀ place, place.kind = "parenthesized_expression" →
      reach.skip place = false ∧ test place = false)
    (stands : edit.Stands node place) : place.holds reach test = node.holds reach test := by
  induction node using downward generalizing place with
  | step node ih =>
    have below : ∀ inner ∈ node.namedChildren, ∀ place, edit.Stands inner place →
        place.holds reach test = inner.holds reach test :=
      fun inner member place stands => ih inner (List.mem_filter.1 member).1 stands
    by_cases same : node = edit.expr
    · subst same
      obtain ⟨inner, copied, only, _⟩ := wraps.exists_inner stands
      have kind := (wraps.parentheses place stands).kind
      obtain ⟨visible, unfit⟩ := passes place kind
      rw [← wraps.holds_of_children skips tests copied below, holds_eq reach test place, only]
      simp [visible, unfit, Node.isFunctionLike, kind, functionKinds]
    · exact wraps.holds_of_children skips tests (stands.copied same) below

theorem holds_of_copied {reach : Reach} {test : Node → Bool}
    (skips : ∀ node copy, edit.Copied node copy → reach.skip copy = reach.skip node)
    (tests : ∀ node copy, edit.Copied node copy → test copy = test node)
    (passes : ∀ place, place.kind = "parenthesized_expression" →
      reach.skip place = false ∧ test place = false)
    (copied : edit.Copied node copy) : copy.holds reach test = node.holds reach test :=
  wraps.holds_of_children skips tests copied fun _ _ _ stands =>
    wraps.holds_of_stands skips tests passes stands

end Parenthesises
end RequestLint.Edit
