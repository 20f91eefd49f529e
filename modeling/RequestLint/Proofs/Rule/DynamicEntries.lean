import RequestLint.Proofs.Fix.Offered
import RequestLint.Proofs.Rule.Independence
import RequestLint.Proofs.Scope.Tracking
import RequestLint.Proofs.Syntax.Reparse

/-! Entries that may stand for any key. A spread or an entry with a computed key is
never found under a key, so a literal that gains one answers every look-up as before.
It no longer shows, however, that a key is missing. Rules that take a missing key for
an answer then say nothing, and all others say what they said. -/
namespace RequestLint

/-- The first request of a tree. -/
def Tree.request (tree : Tree) : Node :=
  ((Node.root tree).preorder.find? (Node.isTargetCall "fetch")).getD (Node.root tree)

namespace Node

variable {object object' entry entry' : Node} {key : String}

/-- An entry that may stand for any key is not found under one. -/
theorem hasKey_of_isDynamicEntry (dynamic : entry.isDynamicEntry = true) (key : String) :
    entry.hasKey key = false := by
  rw [isDynamicEntry, isSpread, Bool.or_eq_true, Bool.and_eq_true, decide_eq_true_eq,
    decide_eq_true_eq] at dynamic
  rw [hasKey, entryKey?]
  rcases dynamic with spread | ⟨kind, computed⟩
  · simp [spread]
  · have long : entry.kind ≠ "shorthand_property_identifier" := by
      rcases List.mem_pair.1 kind with is | is
      · simp [is]
      · simp [is]
    rw [if_neg long]
    split
    · cases found : entry.child? "key" with
      | none => rfl
      | some inner =>
        rw [found] at computed
        have isComputed : inner.kind = "computed_property_name" := of_decide_eq_true computed
        simp [isComputed]
    · rfl

theorem lookup?_eq_none_iff :
    object.lookup? key = none ↔ ∀ entry ∈ object.entries, entry.hasKey key = false := by
  rw [lookup?, List.getLast?_eq_none_iff, List.filter_eq_nil_iff]
  exact forall₂_congr fun entry _ => Bool.eq_false_iff.symm

/-- An entry is found under one key only, up to letter case. -/
theorem hasKey_of_ne {other : String} (keyed : entry.hasKey key = true)
    (differ : Text.lower key ≠ Text.lower other) : entry.hasKey other = false := by
  rw [hasKey] at keyed ⊢
  cases held : entry.entryKey? with
  | none => rfl
  | some text =>
    rw [held] at keyed
    have same : Text.lower text = Text.lower key := of_decide_eq_true keyed
    exact decide_eq_false fun again => differ (same.symm.trans again)

theorem value?_eq_bind : object.value? key = (object.lookup? key).bind entryValue? := rfl

/-- Every pair has a value, as the grammar has it. -/
def PairsValued (object : Node) : Prop :=
  ∀ entry ∈ object.entries, entry.kind = "pair" → (entry.child? "value").isSome = true

instance (object : Node) : Decidable object.PairsValued :=
  inferInstanceAs (Decidable (∀ entry ∈ object.entries, _))

theorem PairsValued.lookup? (valued : object.PairsValued) (missing : object.value? key = none) :
    object.lookup? key = none := by
  cases found : object.lookup? key with
  | none => rfl
  | some entry =>
    obtain ⟨member, keyed⟩ := mem_entries_of_lookup? found
    rw [value?_eq_bind, found, Option.bind_some, entryValue?] at missing
    rcases kind_of_hasKey keyed with short | pair
    · rw [if_pos short] at missing
      cases missing
    · rw [if_neg (by simp [pair])] at missing
      have held := valued entry member pair
      rw [missing] at held
      cases held

/-- The second literal has the entries of the first, and somewhere among them one more
that may stand for any key. -/
structure Gains (object object' : Node) : Prop where
  literal : object.kind = "object"
  literal' : object'.kind = "object"
  inserted : ∃ before after before' after' entry,
    object.parts = before ++ after ∧ object'.parts = before' ++ entry :: after' ∧
      List.Forall₂ Copied before before' ∧ List.Forall₂ Copied after after' ∧
      entry.isDynamicEntry = true

/-- For this key the second literal gives the answer of the first, save that it may
leave open whether it has the key; it does so only if it `grows`. -/
structure Answers (grows : Prop) (key : String) (object object' : Node) : Prop where
  found : Option.Rel Copied (object.lookup? key) (object'.lookup? key)
  dynamic : object'.hasDynamicEntry = object.hasDynamicEntry ∨
    object'.hasDynamicEntry = true ∧ grows

theorem Answers.value? {grows : Prop} (answers : Answers grows key object object') :
    Option.Rel Copied (object.value? key) (object'.value? key) :=
  rel_bind answers.found fun _ found _ same => same.value_of_lookup? found

theorem Answers.imp {grows grows' : Prop} (answers : Answers grows key object object')
    (more : grows → grows') : Answers grows' key object object' :=
  ⟨answers.found, answers.dynamic.imp_right fun silent => ⟨silent.1, more silent.2⟩⟩

theorem Gains.answers (gains : Gains object object') (key : String) :
    Answers True key object object' := by
  obtain ⟨before, after, before', after', entry, parts, parts', first, second, dynamic⟩ :=
    gains.inserted
  constructor
  · have skipped : (entry :: after').filter (·.hasKey key) = after'.filter (·.hasKey key) :=
      List.filter_cons_of_neg (by simp [hasKey_of_isDynamicEntry dynamic key])
    rw [lookup?, lookup?, entries_of_object gains.literal, entries_of_object gains.literal', parts,
      parts', List.filter_append, List.filter_append, skipped]
    refine rel_getLast? (List.rel_append ?_ ?_)
    · exact forall₂_filter first fun _ _ same => same.hasKey key
    · exact forall₂_filter second fun _ _ same => same.hasKey key
  · refine Or.inr ⟨?_, trivial⟩
    rw [hasDynamicEntry, entries_of_object gains.literal', parts']
    simp [dynamic]

theorem answers_of_copied (same : Copied object object') (literal : object.kind = "object")
    (key : String) : Answers False key object object' := by
  refine ⟨?_, Or.inl (same.hasDynamicEntry literal rfl)⟩
  rcases same.lookup? literal key with ⟨found, _⟩ | ⟨_, _, gains, _⟩
  · exact found
  · cases gains

/-- The literals of a request that are read by their keys. -/
inductive Literal where
  | options
  | headers
  deriving DecidableEq, Repr

/-- The entries of one literal beside those of another: `pair` holds the literal
`headers'` there, and every other entry is the same. -/
inductive Exchanged (pair headers' : Node) : Node → Node → Prop
  | same {entry entry' : Node} (other : entry ≠ pair) (same : Copied entry entry') :
    Exchanged pair headers' entry entry'
  | exchanged {pair' : Node} (key : pair'.entryKey? = pair.entryKey?)
    (held : pair'.entryValue?.bind objectLiteral? = some headers') :
    Exchanged pair headers' pair pair'

/-- The second literal is the first with `headers'` in `pair`. -/
structure Exchanges (pair headers' object object' : Node) : Prop where
  literal : object.kind = "object"
  literal' : object'.kind = "object"
  entries : List.Forall₂ (Exchanged pair headers') object.parts object'.parts

/-- `Extended options options' which grown`: the second options are the first with one
more entry that may stand for any key, among their own or among those of the headers
that they name. `grown` is the literal that has it. -/
inductive Extended (options options' : Node) : Literal → Node → Prop
  | options (gains : Gains options options') : Extended options options' .options options'
  | headers {pair headers headers' : Node} (named : options.lookup? "headers" = some pair)
    (held : pair.entryValue?.bind objectLiteral? = some headers) (gains : Gains headers headers')
    (exchanges : Exchanges pair headers' options options') :
    Extended options options' .headers headers'

section Exchanged

variable {pair headers' : Node}

theorem Exchanged.hasKey (same : Exchanged pair headers' entry entry') (key : String) :
    entry'.hasKey key = entry.hasKey key := by
  cases same with
  | same _ same => exact Reparsed.hasKey same key
  | exchanged keyed _ => rw [Node.hasKey, Node.hasKey, keyed]

theorem Exchanged.isDynamicEntry (same : Exchanged pair headers' entry entry')
    (keyed : pair.hasKey key = true) : entry'.isDynamicEntry = entry.isDynamicEntry := by
  have static {entry : Node} (keyed : entry.hasKey key = true) : entry.isDynamicEntry = false := by
    refine Bool.eq_false_iff.2 fun dynamic => ?_
    cases keyed.symm.trans (hasKey_of_isDynamicEntry dynamic key)
  have keys := same.hasKey key
  cases same with
  | same _ same => exact Reparsed.isDynamicEntry same
  | exchanged => rw [static keyed, static (keys.trans keyed)]

theorem Exchanges.lookup? (exchanges : Exchanges pair headers' object object') (key : String) :
    Option.Rel (Exchanged pair headers') (object.lookup? key) (object'.lookup? key) := by
  rw [Node.lookup?, Node.lookup?, entries_of_object exchanges.literal,
    entries_of_object exchanges.literal']
  exact rel_getLast? (forall₂_filter exchanges.entries fun _ _ same => same.hasKey key)

/-- Other keys than that of the headers are answered as before. -/
theorem Exchanges.answers (exchanges : Exchanges pair headers' object object')
    (named : object.lookup? "headers" = some pair)
    (differ : Text.lower "headers" ≠ Text.lower key) : Answers False key object object' := by
  have keyed := (mem_entries_of_lookup? named).2
  constructor
  · have both := exchanges.lookup? key
    cases found : object.lookup? key with
    | none =>
      rw [found] at both
      rw [eq_none_of_rel_none both]
      exact .none
    | some entry =>
      rw [found] at both
      obtain ⟨entry', found', same⟩ := exists_of_rel_some both
      rw [found']
      cases same with
      | same _ same => exact .some same
      | exchanged =>
        have unkeyed := hasKey_of_ne keyed differ
        cases unkeyed.symm.trans (mem_entries_of_lookup? found).2
  · refine Or.inl ?_
    rw [hasDynamicEntry, hasDynamicEntry, entries_of_object exchanges.literal,
      entries_of_object exchanges.literal']
    exact any_of_forall₂ exchanges.entries fun _ _ same => same.isDynamicEntry keyed

/-- The headers of the second options are the exchanged ones. -/
theorem Exchanges.headers (exchanges : Exchanges pair headers' object object')
    (named : object.lookup? "headers" = some pair) :
    ∃ pair', object'.lookup? "headers" = some pair' ∧
      pair'.entryValue?.bind objectLiteral? = some headers' := by
  have both := exchanges.lookup? "headers"
  rw [named] at both
  obtain ⟨pair', named', same⟩ := exists_of_rel_some both
  refine ⟨pair', named', ?_⟩
  cases same with
  | same other => exact absurd rfl other
  | exchanged _ held' => exact held'

end Exchanged

/-- Of all keys but that of the headers, only those of the options are left open. -/
theorem Extended.answers {options options' grown : Node} {which : Literal}
    (extended : Extended options options' which grown)
    (differ : Text.lower "headers" ≠ Text.lower key) :
    Answers (which = .options ∧ grown = options') key options options' := by
  cases extended with
  | options gains => exact (gains.answers key).imp fun _ => ⟨rfl, rfl⟩
  | headers named _ _ exchanges => exact (exchanges.answers named differ).imp False.elim

theorem Extended.body {options options' grown : Node} {which : Literal}
    (extended : Extended options options' which grown) :
    (options'.value? "body").any isJsonSerialization =
      (options.value? "body").any isJsonSerialization :=
  any_of_rel (extended.answers (by decide +kernel)).value? fun _ _ same =>
    Reparsed.isMemberCall same _ _

end Node

open Node JsonContentType

variable {α : Type} {grows leftOpen : Prop} {call call' options options' headers headers' : Node}

/-- What is said with one entry more: the same, or nothing where something is left
open. -/
def Silenced (leftOpen : Prop) (before after : Option α) : Prop :=
  after = before ∨ after = none ∧ leftOpen

theorem Silenced.bind {β : Type} {before after : Option α}
    (silenced : Silenced leftOpen before after) (f : α → Option β) :
    Silenced leftOpen (before.bind f) (after.bind f) := by
  rcases silenced with rfl | ⟨rfl, given⟩
  · exact Or.inl rfl
  · exact Or.inr ⟨rfl, given⟩

theorem Silenced.imp {leftOpen' : Prop} {before after : Option α}
    (silenced : Silenced leftOpen before after) (more : leftOpen → leftOpen') :
    Silenced leftOpen' before after :=
  silenced.imp_right fun silent => ⟨silent.1, more silent.2⟩

/-- A rule that judges what it finds, and takes for an answer that it finds nothing,
unless there is an entry that may stand for anything. -/
theorem silenced_elim {key : String} (answers : Answers grows key options options')
    {found found' : Option Node} (both : Option.Rel Copied found found') (said : α)
    {judge : Node → Option α} (agree : ∀ a ∈ found, ∀ b, Copied a b → judge b = judge a) :
    Silenced (grows ∧ found' = none)
      (found.elim (if options.hasDynamicEntry then none else some said) judge)
      (found'.elim (if options'.hasDynamicEntry then none else some said) judge) := by
  cases both with
  | none =>
    rw [Option.elim_none, Option.elim_none]
    rcases answers.dynamic with same | ⟨dynamic, grows⟩
    · rw [same]
      exact Or.inl rfl
    · rw [if_pos dynamic]
      exact Or.inr ⟨rfl, grows, rfl⟩
  | some same => exact Or.inl (agree _ rfl _ same)

namespace JsonInGet

theorem method?_eq (options : Node) : method? options =
    (options.lookup? "method").elim (if options.hasDynamicEntry then none else some "GET")
      fun entry => entry.entryValue?.bind stringValue? := by
  rw [method?]
  cases options.lookup? "method" with
  | none => rfl
  | some entry => rfl

theorem message_verdict? (given : IsOptions call options) : (verdict? call).map Verdict.message =
    (method? options).bind fun method =>
      if Text.upper method ∈ readingMethods ∧ (options.value? "body").any isJsonSerialization = true
      then some .jsonInGetRequest else none := by
  rw [verdict?, given]
  simp only [Option.bind_eq_bind, Option.bind_some]
  cases method? options with
  | none => rfl
  | some method =>
    rw [Option.bind_some, Option.bind_some]
    split
    · rfl
    · rfl

end JsonInGet

namespace JsonContentType

theorem message_headersVerdict? (headers : Node) : (headersVerdict? headers).map Verdict.message =
    (headers.lookup? "content-type").elim
      (if headers.hasDynamicEntry then none else some .missingContentType) fun entry =>
        (entry.entryValue?.bind stringValue?).bind fun value =>
          if Text.contains (Text.lower value) mediaType then none
          else some .incorrectContentType := by
  rw [headersVerdict?]
  cases headers.lookup? "content-type" with
  | none =>
    dsimp only [Option.elim_none]
    split
    · rfl
    · rfl
  | some entry =>
    dsimp only [Option.elim_some]
    cases entry.entryValue?.bind stringValue? with
    | none => rfl
    | some value =>
      simp only [Option.bind_eq_bind, Option.bind_some]
      split
      · rfl
      · rfl

theorem message_verdict? (given : IsOptions call options) : (verdict? call).map Verdict.message =
    if (options.value? "body").any isJsonSerialization then
      (options.lookup? "headers").elim
        (if options.hasDynamicEntry then none else some .missingContentType) fun pair =>
          (pair.entryValue?.bind objectLiteral?).bind fun headers =>
            (headersVerdict? headers).map Verdict.message
    else none := by
  rw [verdict?, given, Option.bind_some, optionsVerdict?]
  split
  · cases options.lookup? "headers" with
    | none =>
      dsimp only [Option.elim_none]
      split
      · rfl
      · rfl
    | some pair =>
      dsimp only [Option.elim_some]
      cases pair.entryValue?.bind objectLiteral? with
      | none => rfl
      | some headers => rfl
  · rfl

end JsonContentType

namespace Timeout

theorem message_verdict? (given : IsOptions call options) : (verdict? call).map Verdict.message =
    (options.value? "signal").elim
      (if options.hasDynamicEntry then none else some .missingTimeout) fun signal =>
        if isTimeoutSignal signal then none else some .missingTimeout := by
  obtain ⟨argument, found, literal⟩ := Option.bind_eq_some_iff.1 given
  rw [argument?] at found
  split at found
  · cases found
  next unspread =>
    rw [verdict?, if_neg unspread, found]
    simp only [literal, Option.bind_eq_bind, Option.bind_some]
    cases options.value? "signal" with
    | none =>
      dsimp only [Option.elim_none]
      split
      · rfl
      · rfl
    | some signal =>
      dsimp only [Option.elim_some]
      split
      · rfl
      · rfl

theorem isTimeoutSignal_of_copied {signal signal' : Node} (same : Copied signal signal') :
    isTimeoutSignal signal' = isTimeoutSignal signal := by
  refine any_of_rel (Reparsed.unwrap same) fun inner inner' same => ?_
  rw [Reparsed.isMemberCall same, any_of_rel (Reparsed.member? same)]
  rintro found found' ⟨_, property⟩
  rw [property]

end Timeout

variable {which : Literal} {grown : Node}

/-- The key that a rule looks for in a literal of a request, taking its absence for an
answer. -/
def Node.Literal.sought? : Literal → Rule → Option String
  | .options, .jsonInGet => some "method"
  | .options, .jsonContentType => some "headers"
  | .options, .timeout => some "signal"
  | .headers, .jsonContentType => some "content-type"
  | _, _ => none

/-- The key that the rule looks for has no value in the literal, and no entry either,
save that the rule for signals minds the value only. -/
def LeftOpen (which : Literal) (grown : Node) (rule : Rule) : Prop :=
  ∃ key, which.sought? rule = some key ∧ grown.value? key = none ∧
    (rule = .timeout ∨ grown.lookup? key = none)

theorem leftOpen_of_lookup? {rule : Rule} {key : String} (sought : which.sought? rule = some key)
    (missing : grown.lookup? key = none) : LeftOpen which grown rule :=
  ⟨key, sought, by rw [value?_eq_bind, missing, Option.bind_none], Or.inr missing⟩

theorem silenced_jsonInGet (given : IsOptions call options) (given' : IsOptions call' options')
    (extended : Extended options options' which grown) :
    Silenced (LeftOpen which grown .jsonInGet) ((JsonInGet.verdict? call).map Verdict.message)
      ((JsonInGet.verdict? call').map Verdict.message) := by
  have answers : Answers _ "method" options options' := extended.answers (by decide +kernel)
  rw [JsonInGet.message_verdict? given, JsonInGet.message_verdict? given', extended.body,
    JsonInGet.method?_eq, JsonInGet.method?_eq]
  refine Silenced.bind ((silenced_elim answers answers.found "GET" ?_).imp ?_) _
  · intro entry found entry' same
    exact same.stringValue_of_lookup? found
  · rintro ⟨⟨rfl, rfl⟩, missing⟩
    exact leftOpen_of_lookup? rfl missing

theorem silenced_timeout (given : IsOptions call options) (given' : IsOptions call' options')
    (extended : Extended options options' which grown) :
    Silenced (LeftOpen which grown .timeout) ((Timeout.verdict? call).map Verdict.message)
      ((Timeout.verdict? call').map Verdict.message) := by
  have answers : Answers _ "signal" options options' := extended.answers (by decide +kernel)
  rw [Timeout.message_verdict? given, Timeout.message_verdict? given']
  refine (silenced_elim answers answers.value? _ ?_).imp ?_
  · intro signal _ signal' same
    rw [Timeout.isTimeoutSignal_of_copied same]
  · rintro ⟨⟨rfl, rfl⟩, missing⟩
    exact ⟨"signal", rfl, missing, Or.inl rfl⟩

theorem silenced_headers (answers : Answers grows "content-type" headers headers') :
    Silenced (grows ∧ headers'.lookup? "content-type" = none)
      ((headersVerdict? headers).map Verdict.message)
      ((headersVerdict? headers').map Verdict.message) := by
  rw [message_headersVerdict?, message_headersVerdict?]
  refine silenced_elim answers answers.found _ fun entry found entry' same => ?_
  rw [same.stringValue_of_lookup? found]

/-- Headers that are the same but for their place are judged alike. -/
theorem message_headersVerdict?_of_copied (same : Copied headers headers')
    (literal : headers.kind = "object") :
    (headersVerdict? headers').map Verdict.message =
      (headersVerdict? headers).map Verdict.message := by
  rcases silenced_headers (answers_of_copied same literal _) with equal | ⟨_, grows, _⟩
  · exact equal
  · exact grows.elim

theorem silenced_jsonContentType (given : IsOptions call options)
    (given' : IsOptions call' options') (extended : Extended options options' which grown) :
    Silenced (LeftOpen which grown .jsonContentType) ((verdict? call).map Verdict.message)
      ((verdict? call').map Verdict.message) := by
  rw [message_verdict? given, message_verdict? given', extended.body]
  split
  next =>
    cases extended with
    | options gains =>
      have answers := gains.answers "headers"
      refine (silenced_elim answers answers.found _ ?_).imp fun silent =>
        leftOpen_of_lookup? rfl silent.2
      intro pair found pair' same
      have both : Option.Rel Copied (pair.entryValue?.bind objectLiteral?)
          (pair'.entryValue?.bind objectLiteral?) :=
        rel_bind (same.value_of_lookup? found) fun _ _ _ same => same.objectLiteral?
      cases held : pair.entryValue?.bind objectLiteral? with
      | none =>
        rw [held] at both
        rw [eq_none_of_rel_none both]
      | some headers =>
        rw [held] at both
        obtain ⟨headers', held', same'⟩ := exists_of_rel_some both
        rw [held']
        exact message_headersVerdict?_of_copied same' (kind_of_isHeaders ⟨pair, found, held⟩)
    | headers named held gains exchanges =>
      obtain ⟨pair', named', held'⟩ := exchanges.headers named
      rw [named, named', Option.elim_some, Option.elim_some, held, held', Option.bind_some,
        Option.bind_some]
      exact (silenced_headers (gains.answers _)).imp fun silent =>
        leftOpen_of_lookup? rfl silent.2
  next => exact Or.inl rfl

/-- The rules that judge a request by its options. -/
def optionRules : List Rule := [.jsonInGet, .jsonContentType, .timeout]

theorem silenced_of_mem {rule : Rule} (member : rule ∈ optionRules) (settings : Options)
    (given : IsOptions call options) (given' : IsOptions call' options')
    (extended : Extended options options' which grown) :
    ∃ verdict?, rule.ActsBy settings (rule.onTarget settings verdict?) ∧
      Silenced (LeftOpen which grown rule) ((verdict? call).map Verdict.message)
        ((verdict? call').map Verdict.message) := by
  simp only [optionRules, List.mem_cons, List.not_mem_nil, or_false] at member
  rcases member with rfl | rfl | rfl
  · exact ⟨JsonInGet.verdict?, Rule.actsBy_onTarget (by decide) fun _ _ _ => rfl,
      silenced_jsonInGet given given' extended⟩
  · exact ⟨JsonContentType.verdict?, Rule.actsBy_onTarget (by decide) fun _ _ _ => rfl,
      silenced_jsonContentType given given' extended⟩
  · exact ⟨Timeout.verdict?, Rule.actsBy_onTarget (by decide) fun _ _ _ => rfl,
      silenced_timeout given given' extended⟩

theorem Rule.id_injective : Function.Injective Rule.id := by
  have distinct : (all.map id).Nodup := by decide
  have every (rule : Rule) : rule ∈ all := by
    cases rule <;> decide
  intro first second same
  exact List.inj_on_of_nodup_map distinct (every first) (every second) same

namespace Analysis

variable {analysis : Analysis} {tree tree' : Tree} {rule : Rule} {id : String}

/-- Analysing the tree, the rule reports the message about the call. -/
def Reports (analysis : Analysis) (tree : Tree) (rule : Rule) (id : String) (call : Node) : Prop :=
  ∃ finding ∈ Action.reports
      (analysis.actions (Tracker.walk analysis.options.target (root tree)).history),
    finding.rule = rule.id ∧ finding.messageId = id ∧ finding.site = call

instance (analysis : Analysis) (tree : Tree) (rule : Rule) (id : String) (call : Node) :
    Decidable (analysis.Reports tree rule id call) :=
  inferInstanceAs (Decidable (∃ finding ∈ _, _))

/-- A rule that judges single calls of the target reports what it holds against them. -/
theorem reports_iff {verdict? : Node → Option Verdict}
    (acts : rule.ActsBy analysis.options (rule.onTarget analysis.options verdict?))
    (listed : call ∈ (root tree).preorder)
    (targets : call.isTargetCall analysis.options.target = true) :
    analysis.Reports tree rule id call ↔
      rule ∈ analysis.rules ∧ ∃ message ∈ (verdict? call).map Verdict.message, message.id = id := by
  constructor
  · rintro ⟨finding, reported, ruled, named, site⟩
    obtain ⟨seen, past, _, other, enabled, asked⟩ :=
      mem_actions_iff.1 (Action.mem_reports_iff.1 reported)
    obtain rfl : other = rule := Rule.id_injective ((Rule.subject_react asked).symm.trans ruled)
    rw [acts past seen] at asked
    cases seen with
    | bound binding => cases asked
    | entered node scopes =>
      obtain ⟨_, verdict, judged, rfl⟩ := Rule.verdict_of_onTarget asked
      obtain rfl : node = call := site
      exact ⟨enabled, verdict.message, by rw [judged]; rfl, named⟩
  · rintro ⟨enabled, message, judged, named⟩
    obtain ⟨verdict, held, rfl⟩ := Option.map_eq_some_iff.1 judged
    obtain ⟨scopes, seen⟩ := Tracker.exists_entered listed
    obtain ⟨newer, past, history⟩ := List.append_of_mem seen
    refine ⟨verdict.finding rule analysis.options call, ?_, rfl, named, rfl⟩
    refine Action.mem_reports_iff.2 (mem_actions_iff.2
      ⟨.entered call scopes, past, ⟨newer, history.symm⟩, rule, enabled, ?_⟩)
    rw [acts]
    simp [Observation.entered?, Rule.onTarget, targets, held]

/-- Entries that may stand for any key only ever silence the rules that judge a request
by its options. Two requests are compared whose options agree, save that those of the
second have such an entry more, wherever it stands, among their own or in the headers
that they name. Whatever these rules report about the second, they report about the
first. What is reported about the first alone is silenced because the key that the
rule looks for has no entry of its own in the literal that has the new entry. The
rule for signals minds their values, so there the pairs are taken to have values. -/
theorem dynamic_entries_only_silence (analysis : Analysis) (listed : call ∈ (root tree).preorder)
    (listed' : call' ∈ (root tree').preorder)
    (targets : call.isTargetCall analysis.options.target = true)
    (targets' : call'.isTargetCall analysis.options.target = true)
    (given : (call.argument? 1).bind objectLiteral? = some options)
    (given' : (call'.argument? 1).bind objectLiteral? = some options')
    (extended : Extended options options' which grown) :
    ∀ rule ∈ optionRules, ∀ id,
      (analysis.Reports tree' rule id call' → analysis.Reports tree rule id call) ∧
      (analysis.Reports tree rule id call → ¬ analysis.Reports tree' rule id call' →
        (rule = .timeout → grown.PairsValued) →
        ∃ key, which.sought? rule = some key ∧
          ∀ entry ∈ grown.entries, entry.hasKey key = false) := by
  intro rule member id
  obtain ⟨verdict?, acts, silenced⟩ :=
    silenced_of_mem member analysis.options given given' extended
  rw [reports_iff acts listed targets, reports_iff acts listed' targets']
  rcases silenced with same | ⟨silent, key, sought, missing, least⟩
  · rw [same]
    exact ⟨fun reported => reported, fun reported dropped => absurd reported dropped⟩
  · rw [silent]
    refine ⟨?_, fun _ _ valued => ⟨key, sought, lookup?_eq_none_iff.1 ?_⟩⟩
    · rintro ⟨_, message, judged, _⟩
      cases judged
    · rcases least with signal | absent
      · exact (valued signal).lookup? missing
      · exact absent

/-- A request with headers that state no content type. -/
def bareHeaders.source : Bytes :=
  Utf8.encode "fetch(u, \x7b body: JSON.stringify(d), headers: \x7b\x7d \x7d);"

def bareHeaders : Tree :=
  (Tree.ofOutline? bareHeaders.source
    [⟨"program", true, false, "", 0, 51, 1⟩,
      ⟨"expression_statement", true, false, "", 0, 51, 2⟩,
      ⟨"call_expression", true, false, "", 0, 50, 2⟩,
      ⟨"identifier", true, false, "function", 0, 5, 0⟩,
      ⟨"arguments", true, false, "arguments", 5, 50, 5⟩,
      ⟨"(", false, false, "", 5, 6, 0⟩,
      ⟨"identifier", true, false, "", 6, 7, 0⟩,
      ⟨",", false, false, "", 7, 8, 0⟩,
      ⟨"object", true, false, "", 9, 49, 5⟩,
      ⟨"\x7b", false, false, "", 9, 10, 0⟩,
      ⟨"pair", true, false, "", 11, 34, 3⟩,
      ⟨"property_identifier", true, false, "key", 11, 15, 0⟩,
      ⟨":", false, false, "", 15, 16, 0⟩,
      ⟨"call_expression", true, false, "value", 17, 34, 2⟩,
      ⟨"member_expression", true, false, "function", 17, 31, 3⟩,
      ⟨"identifier", true, false, "object", 17, 21, 0⟩,
      ⟨".", false, false, "", 21, 22, 0⟩,
      ⟨"property_identifier", true, false, "property", 22, 31, 0⟩,
      ⟨"arguments", true, false, "arguments", 31, 34, 3⟩,
      ⟨"(", false, false, "", 31, 32, 0⟩,
      ⟨"identifier", true, false, "", 32, 33, 0⟩,
      ⟨")", false, false, "", 33, 34, 0⟩,
      ⟨",", false, false, "", 34, 35, 0⟩,
      ⟨"pair", true, false, "", 36, 47, 3⟩,
      ⟨"property_identifier", true, false, "key", 36, 43, 0⟩,
      ⟨":", false, false, "", 43, 44, 0⟩,
      ⟨"object", true, false, "value", 45, 47, 2⟩,
      ⟨"\x7b", false, false, "", 45, 46, 0⟩,
      ⟨"\x7d", false, false, "", 46, 47, 0⟩,
      ⟨"\x7d", false, false, "", 48, 49, 0⟩,
      ⟨")", false, false, "", 49, 50, 0⟩,
      ⟨";", false, false, "", 50, 51, 0⟩]).getD (Tree.blank bareHeaders.source)

/-- The same request with headers from elsewhere. -/
def spreadHeaders.source : Bytes :=
  Utf8.encode "fetch(u, \x7b body: JSON.stringify(d), headers: \x7b ...h \x7d \x7d);"

def spreadHeaders : Tree :=
  (Tree.ofOutline? spreadHeaders.source
    [⟨"program", true, false, "", 0, 57, 1⟩,
      ⟨"expression_statement", true, false, "", 0, 57, 2⟩,
      ⟨"call_expression", true, false, "", 0, 56, 2⟩,
      ⟨"identifier", true, false, "function", 0, 5, 0⟩,
      ⟨"arguments", true, false, "arguments", 5, 56, 5⟩,
      ⟨"(", false, false, "", 5, 6, 0⟩,
      ⟨"identifier", true, false, "", 6, 7, 0⟩,
      ⟨",", false, false, "", 7, 8, 0⟩,
      ⟨"object", true, false, "", 9, 55, 5⟩,
      ⟨"\x7b", false, false, "", 9, 10, 0⟩,
      ⟨"pair", true, false, "", 11, 34, 3⟩,
      ⟨"property_identifier", true, false, "key", 11, 15, 0⟩,
      ⟨":", false, false, "", 15, 16, 0⟩,
      ⟨"call_expression", true, false, "value", 17, 34, 2⟩,
      ⟨"member_expression", true, false, "function", 17, 31, 3⟩,
      ⟨"identifier", true, false, "object", 17, 21, 0⟩,
      ⟨".", false, false, "", 21, 22, 0⟩,
      ⟨"property_identifier", true, false, "property", 22, 31, 0⟩,
      ⟨"arguments", true, false, "arguments", 31, 34, 3⟩,
      ⟨"(", false, false, "", 31, 32, 0⟩,
      ⟨"identifier", true, false, "", 32, 33, 0⟩,
      ⟨")", false, false, "", 33, 34, 0⟩,
      ⟨",", false, false, "", 34, 35, 0⟩,
      ⟨"pair", true, false, "", 36, 53, 3⟩,
      ⟨"property_identifier", true, false, "key", 36, 43, 0⟩,
      ⟨":", false, false, "", 43, 44, 0⟩,
      ⟨"object", true, false, "value", 45, 53, 3⟩,
      ⟨"\x7b", false, false, "", 45, 46, 0⟩,
      ⟨"spread_element", true, false, "", 47, 51, 2⟩,
      ⟨"...", false, false, "", 47, 50, 0⟩,
      ⟨"identifier", true, false, "", 50, 51, 0⟩,
      ⟨"\x7d", false, false, "", 52, 53, 0⟩,
      ⟨"\x7d", false, false, "", 54, 55, 0⟩,
      ⟨")", false, false, "", 55, 56, 0⟩,
      ⟨";", false, false, "", 56, 57, 0⟩]).getD (Tree.blank spreadHeaders.source)

theorem spreadHeaders_gains :
    ∀ options ∈ (bareHeaders.request.argument? 1).bind objectLiteral?,
    ∀ options' ∈ (spreadHeaders.request.argument? 1).bind objectLiteral?,
    ∀ pair ∈ options.lookup? "headers", ∀ pair' ∈ options'.lookup? "headers",
      ∃ headers headers', pair.entryValue?.bind objectLiteral? = some headers ∧
        pair'.entryValue?.bind objectLiteral? = some headers' ∧ Gains headers headers' := by
  have held : ∀ options ∈ (bareHeaders.request.argument? 1).bind objectLiteral?,
      ∀ pair ∈ options.lookup? "headers", ∃ headers ∈ pair.entryValue?.bind objectLiteral?,
        headers.kind = "object" ∧ headers.parts = [] := by
    decide +kernel
  have held' : ∀ options' ∈ (spreadHeaders.request.argument? 1).bind objectLiteral?,
      ∀ pair' ∈ options'.lookup? "headers", ∃ headers' ∈ pair'.entryValue?.bind objectLiteral?,
        headers'.kind = "object" ∧ ∃ spread ∈ headers'.parts, headers'.parts = [spread] ∧
          spread.isDynamicEntry = true := by
    decide +kernel
  intro options given options' given' pair named pair' named'
  obtain ⟨headers, held, literal, bare⟩ := held options given pair named
  obtain ⟨headers', held', literal', spread, _, one, dynamic⟩ := held' options' given' pair' named'
  exact ⟨headers, headers', held, held', literal, literal', [], [], [], [], spread, bare, one, .nil,
    .nil, dynamic⟩

theorem spreadHeaders_extended :
    ∃ options options' grown,
      (bareHeaders.request.argument? 1).bind objectLiteral? = some options ∧
      (spreadHeaders.request.argument? 1).bind objectLiteral? = some options' ∧
      Extended options options' .headers grown := by
  have shape : ∃ options ∈ (bareHeaders.request.argument? 1).bind objectLiteral?,
      ∃ options' ∈ (spreadHeaders.request.argument? 1).bind objectLiteral?,
      ∃ body ∈ options.parts, ∃ pair ∈ options.parts, options.parts = [body, pair] ∧
      ∃ body' ∈ options'.parts, ∃ pair' ∈ options'.parts, options'.parts = [body', pair'] ∧
        body ≠ pair ∧ reparses (fun _ => none) (fun _ _ => false) body body' = true ∧
        options.lookup? "headers" = some pair ∧ options'.lookup? "headers" = some pair' ∧
        pair'.entryKey? = pair.entryKey? := by
    decide +kernel
  obtain ⟨options, given, options', given', body, _, pair, _, parts, body', _, pair', _, parts',
    other, copied, named, named', key⟩ := shape
  obtain ⟨headers, headers', held, held', gains⟩ :=
    spreadHeaders_gains options given options' given' pair named pair' named'
  have same : Copied body body' := reparsed_of_reparses (fun _ _ never => nomatch never) copied
  refine ⟨options, options', headers', given, given', ?_⟩
  refine .headers named held gains ⟨kind_of_isOptions given, kind_of_isOptions given', ?_⟩
  rw [parts, parts']
  exact .cons (.same other same) (.cons (.exchanged key held') .nil)

/-- The same request with options from elsewhere. -/
def spreadOptions.source : Bytes :=
  Utf8.encode "fetch(u, \x7b body: JSON.stringify(d), headers: \x7b\x7d, ...o \x7d);"

def spreadOptions : Tree :=
  (Tree.ofOutline? spreadOptions.source
    [⟨"program", true, false, "", 0, 57, 1⟩,
      ⟨"expression_statement", true, false, "", 0, 57, 2⟩,
      ⟨"call_expression", true, false, "", 0, 56, 2⟩,
      ⟨"identifier", true, false, "function", 0, 5, 0⟩,
      ⟨"arguments", true, false, "arguments", 5, 56, 5⟩,
      ⟨"(", false, false, "", 5, 6, 0⟩,
      ⟨"identifier", true, false, "", 6, 7, 0⟩,
      ⟨",", false, false, "", 7, 8, 0⟩,
      ⟨"object", true, false, "", 9, 55, 7⟩,
      ⟨"\x7b", false, false, "", 9, 10, 0⟩,
      ⟨"pair", true, false, "", 11, 34, 3⟩,
      ⟨"property_identifier", true, false, "key", 11, 15, 0⟩,
      ⟨":", false, false, "", 15, 16, 0⟩,
      ⟨"call_expression", true, false, "value", 17, 34, 2⟩,
      ⟨"member_expression", true, false, "function", 17, 31, 3⟩,
      ⟨"identifier", true, false, "object", 17, 21, 0⟩,
      ⟨".", false, false, "", 21, 22, 0⟩,
      ⟨"property_identifier", true, false, "property", 22, 31, 0⟩,
      ⟨"arguments", true, false, "arguments", 31, 34, 3⟩,
      ⟨"(", false, false, "", 31, 32, 0⟩,
      ⟨"identifier", true, false, "", 32, 33, 0⟩,
      ⟨")", false, false, "", 33, 34, 0⟩,
      ⟨",", false, false, "", 34, 35, 0⟩,
      ⟨"pair", true, false, "", 36, 47, 3⟩,
      ⟨"property_identifier", true, false, "key", 36, 43, 0⟩,
      ⟨":", false, false, "", 43, 44, 0⟩,
      ⟨"object", true, false, "value", 45, 47, 2⟩,
      ⟨"\x7b", false, false, "", 45, 46, 0⟩,
      ⟨"\x7d", false, false, "", 46, 47, 0⟩,
      ⟨",", false, false, "", 47, 48, 0⟩,
      ⟨"spread_element", true, false, "", 49, 53, 2⟩,
      ⟨"...", false, false, "", 49, 52, 0⟩,
      ⟨"identifier", true, false, "", 52, 53, 0⟩,
      ⟨"\x7d", false, false, "", 54, 55, 0⟩,
      ⟨")", false, false, "", 55, 56, 0⟩,
      ⟨";", false, false, "", 56, 57, 0⟩]).getD (Tree.blank spreadOptions.source)

theorem spreadOptions_extended :
    ∃ options options',
      (bareHeaders.request.argument? 1).bind objectLiteral? = some options ∧
      (spreadOptions.request.argument? 1).bind objectLiteral? = some options' ∧
      Extended options options' .options options' ∧ options'.PairsValued := by
  have shape : ∃ options ∈ (bareHeaders.request.argument? 1).bind objectLiteral?,
      ∃ options' ∈ (spreadOptions.request.argument? 1).bind objectLiteral?,
      ∃ body ∈ options.parts, ∃ pair ∈ options.parts, options.parts = [body, pair] ∧
      ∃ body' ∈ options'.parts, ∃ pair' ∈ options'.parts, ∃ spread ∈ options'.parts,
        options'.parts = [body', pair', spread] ∧ spread.isDynamicEntry = true ∧
        reparses (fun _ => none) (fun _ _ => false) body body' = true ∧
        reparses (fun _ => none) (fun _ _ => false) pair pair' = true := by
    decide +kernel
  have valued : ∀ options' ∈ (spreadOptions.request.argument? 1).bind objectLiteral?,
      options'.PairsValued := by
    decide +kernel
  obtain ⟨options, given, options', given', body, _, pair, _, parts, body', _, pair', _, spread, _,
    parts', dynamic, copied, copied'⟩ := shape
  have same : Copied body body' := reparsed_of_reparses (fun _ _ never => nomatch never) copied
  have same' : Copied pair pair' := reparsed_of_reparses (fun _ _ never => nomatch never) copied'
  refine ⟨options, options', given, given', .options ?_, valued options' given'⟩
  exact ⟨kind_of_isOptions given, kind_of_isOptions given', [body, pair], [], [body', pair'], [],
    spread, parts, parts', .cons same (.cons same' .nil), .nil, dynamic⟩

theorem dynamic_entries_only_silence_spread :
    (∃ options options' grown,
      (bareHeaders.request.argument? 1).bind objectLiteral? = some options ∧
      (spreadHeaders.request.argument? 1).bind objectLiteral? = some options' ∧
      Extended options options' .headers grown ∧
      Reports {} bareHeaders .jsonContentType "missingContentType" bareHeaders.request ∧
      ¬ Reports {} spreadHeaders .jsonContentType "missingContentType" spreadHeaders.request ∧
      ∃ key, Literal.headers.sought? .jsonContentType = some key ∧
        ∀ entry ∈ grown.entries, entry.hasKey key = false) ∧
    ∃ options options',
      (bareHeaders.request.argument? 1).bind objectLiteral? = some options ∧
      (spreadOptions.request.argument? 1).bind objectLiteral? = some options' ∧
      Extended options options' .options options' ∧ options'.PairsValued ∧
      Reports {} bareHeaders .timeout "missingTimeout" bareHeaders.request ∧
      ¬ Reports {} spreadOptions .timeout "missingTimeout" spreadOptions.request ∧
      ∃ key, Literal.options.sought? .timeout = some key ∧
        ∀ entry ∈ options'.entries, entry.hasKey key = false := by
  have listed : bareHeaders.request ∈ (root bareHeaders).preorder := by decide +kernel
  constructor
  · obtain ⟨options, options', grown, given, given', extended⟩ := spreadHeaders_extended
    have reported : Reports {} bareHeaders .jsonContentType "missingContentType"
        bareHeaders.request := by
      decide +kernel
    have dropped : ¬ Reports {} spreadHeaders .jsonContentType "missingContentType"
        spreadHeaders.request := by
      decide +kernel
    have listed' : spreadHeaders.request ∈ (root spreadHeaders).preorder := by decide +kernel
    have silenced := dynamic_entries_only_silence {} listed listed' (by decide +kernel)
      (by decide +kernel) given given' extended .jsonContentType (by decide) "missingContentType"
    exact ⟨options, options', grown, given, given', extended, reported, dropped,
      silenced.2 reported dropped nofun⟩
  · obtain ⟨options, options', given, given', extended, valued⟩ := spreadOptions_extended
    have reported : Reports {} bareHeaders .timeout "missingTimeout" bareHeaders.request := by
      decide +kernel
    have dropped : ¬ Reports {} spreadOptions .timeout "missingTimeout"
        spreadOptions.request := by
      decide +kernel
    have listed' : spreadOptions.request ∈ (root spreadOptions).preorder := by decide +kernel
    have silenced := dynamic_entries_only_silence {} listed listed' (by decide +kernel)
      (by decide +kernel) given given' extended .timeout (by decide) "missingTimeout"
    exact ⟨options, options', given, given', extended, valued, reported, dropped,
      silenced.2 reported dropped fun _ => valued⟩

end Analysis
end RequestLint
