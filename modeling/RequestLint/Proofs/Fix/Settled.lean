import RequestLint.Language
import RequestLint.Proofs.Rule.Independence
import RequestLint.Proofs.Rule.JsonContentType
import RequestLint.Proofs.Rule.Locality
import RequestLint.Proofs.Syntax.Reparse

/-! A missing content type is supplied by one round of fixes. In the tree of the
fixed source each literal has its old entries and, where one was added, that entry
at its end. The new entry is then the one that counts, so its request is no longer
reported; all other requests are judged as before, and no fix is offered again. -/
namespace RequestLint.JsonContentType
open Node

/-- The tree of `headerEntry`. -/
def headerPair : Tree :=
  (Tree.ofOutline? (Utf8.encode headerEntry)
    [⟨"pair", true, false, "", 0, 34, 3⟩,
      ⟨"string", true, false, "key", 0, 14, 3⟩,
      ⟨"\"", false, false, "", 0, 1, 0⟩,
      ⟨"string_fragment", true, false, "", 1, 13, 0⟩,
      ⟨"\"", false, false, "", 13, 14, 0⟩,
      ⟨":", false, false, "", 14, 15, 0⟩,
      ⟨"string", true, false, "value", 16, 34, 3⟩,
      ⟨"\"", false, false, "", 16, 17, 0⟩,
      ⟨"string_fragment", true, false, "", 17, 33, 0⟩,
      ⟨"\"", false, false, "", 33, 34, 0⟩]).getD (Tree.blank (Utf8.encode headerEntry))

/-- The tree of `headersEntry`. -/
def headersPair : Tree :=
  (Tree.ofOutline? (Utf8.encode headersEntry)
    [⟨"pair", true, false, "", 0, 47, 3⟩,
      ⟨"property_identifier", true, false, "key", 0, 7, 0⟩,
      ⟨":", false, false, "", 7, 8, 0⟩,
      ⟨"object", true, false, "value", 9, 47, 3⟩,
      ⟨"\x7b", false, false, "", 9, 10, 0⟩,
      ⟨"pair", true, false, "", 11, 45, 3⟩,
      ⟨"string", true, false, "key", 11, 25, 3⟩,
      ⟨"\"", false, false, "", 11, 12, 0⟩,
      ⟨"string_fragment", true, false, "", 12, 24, 0⟩,
      ⟨"\"", false, false, "", 24, 25, 0⟩,
      ⟨":", false, false, "", 25, 26, 0⟩,
      ⟨"string", true, false, "value", 27, 45, 3⟩,
      ⟨"\"", false, false, "", 27, 28, 0⟩,
      ⟨"string_fragment", true, false, "", 28, 44, 0⟩,
      ⟨"\"", false, false, "", 44, 45, 0⟩,
      ⟨"\x7d", false, false, "", 46, 47, 0⟩]).getD (Tree.blank (Utf8.encode headersEntry))

instance (call options : Node) : Decidable (IsOptions call options) :=
  inferInstanceAs (Decidable (_ = _))

/-- The entry that a literal of the tree gains: some request is offered a fix for it,
and what is added depends on whether it is the request's options or its headers. -/
def gained? (options : Options) (tree : Tree) (object : Node) : Option Tree :=
  ((root tree).preorder.find? fun call => call.isTargetCall options.target &&
      (verdict? call).any fun verdict => verdict.place = object && verdict.fix?.isSome).map
    fun call => if IsOptions call object then headersPair else headerPair

variable {options : Options} {old new tree : Tree} {call call' object : Node} {entry : String}

/-- A literal gains an entry exactly if its request is offered a fix for it. -/
theorem gained?_cases (listed : call ∈ (root tree).preorder)
    (targets : call.isTargetCall options.target = true) (supplies : Supplies call object entry) :
    (gained? options tree object = none ∧
        ∀ verdict, verdict? call = some verdict → verdict.place = object → verdict.fix? = none) ∨
      gained? options tree object =
          some (if IsOptions call object then headersPair else headerPair) ∧
        ∃ verdict, verdict? call = some verdict ∧ verdict.fix?.isSome = true := by
  rw [gained?]
  cases found : (root tree).preorder.find? fun call => call.isTargetCall options.target &&
      (verdict? call).any fun verdict => verdict.place = object && verdict.fix?.isSome with
  | none =>
    refine Or.inl ⟨rfl, ?_⟩
    intro verdict judged here
    have unoffered := List.find?_eq_none.1 found call listed
    simp only [targets, judged, Option.any_some, here, decide_true, Bool.true_and,
      Bool.not_eq_true, Option.isSome_eq_false_iff, Option.isNone_iff_eq_none] at unoffered
    exact unoffered
  | some other =>
    have offered := List.find?_some found
    simp only [Bool.and_eq_true, Option.any_eq_true, decide_eq_true_eq] at offered
    obtain ⟨_, verdict, judged, here, offers⟩ := offered
    obtain ⟨fix, offers'⟩ := Option.isSome_iff_exists.1 offers
    obtain ⟨object', entry', supplies', rfl, _⟩ := supplies_of_verdict? judged offers'
    obtain rfl : object' = object := here
    obtain rfl := supplies.unique supplies'
    exact Or.inr ⟨rfl, _, judged, offers⟩

theorem pair_of_gained? {pair : Tree} (gains : gained? options tree object = some pair) :
    pair = headersPair ∨ pair = headerPair := by
  obtain ⟨call, _, rfl⟩ := Option.map_eq_some_iff.1 gains
  split
  · exact Or.inl rfl
  · exact Or.inr rfl

/-- An entry that states the media type of JSON. -/
structure StatesType (entry : Node) : Prop where
  key : entry.hasKey "content-type" = true
  body : entry.hasKey "body" = false
  value : entry.entryValue?.bind stringValue? = some mediaType

/-- An entry with headers that state it. -/
structure StatesHeaders (entry : Node) : Prop where
  key : entry.hasKey "headers" = true
  body : entry.hasKey "body" = false
  value : ∃ headers, entry.entryValue?.bind objectLiteral? = some headers ∧
    ∃ inner, headers.lookup? "content-type" = some inner ∧ StatesType inner

variable {entry entry' : Node}

theorem StatesType.of_reparsed (states : StatesType entry) (pair : entry.kind = "pair")
    {gain? : Node → Option Tree} {copied : Node → Node → Prop}
    (same : Reparsed gain? copied entry entry') : StatesType entry' := by
  have value : entry'.entryValue?.bind stringValue? = entry.entryValue?.bind stringValue? :=
    bind_of_rel (same.entryValue? (by simp [pair])) fun _ _ same => same.stringValue?
  exact ⟨by rw [same.hasKey, states.key], by rw [same.hasKey, states.body],
    by rw [value, states.value]⟩

theorem statesType_of_copied (same : Copied (root headerPair) entry) : StatesType entry := by
  have states : StatesType (root headerPair) :=
    ⟨by decide +kernel, by decide +kernel, by decide +kernel⟩
  exact states.of_reparsed (by decide +kernel) same

theorem statesHeaders_of_copied (same : Copied (root headersPair) entry) : StatesHeaders entry := by
  have spelled : ∃ headers ∈ (root headersPair).entryValue?.bind objectLiteral?,
      headers.kind = "object" ∧ ∃ inner ∈ headers.lookup? "content-type", inner.kind = "pair" ∧
        inner.hasKey "content-type" = true ∧ inner.hasKey "body" = false ∧
        inner.entryValue?.bind stringValue? = some mediaType := by decide +kernel
  obtain ⟨headers, held, literal, inner, found, pair, key, body, value⟩ := spelled
  have held' := rel_bind (same.entryValue? (by decide +kernel)) fun _ _ _ same =>
    same.objectLiteral?
  rw [held] at held'
  obtain ⟨headers', held', same'⟩ := exists_of_rel_some held'
  refine ⟨?_, ?_, headers', held', ?_⟩
  · rw [same.hasKey]
    decide +kernel
  · rw [same.hasKey]
    decide +kernel
  · rcases same'.lookup? literal "content-type" with ⟨found', _⟩ | ⟨_, _, gains, _⟩
    · rw [found] at found'
      obtain ⟨inner', found', same⟩ := exists_of_rel_some found'
      exact ⟨inner', found', StatesType.of_reparsed ⟨key, body, value⟩ pair same⟩
    · cases gains

/-- What is held against a request before and after a round of fixes. What came with
a fix is gone; anything else is given again with its message, and without a fix. -/
inductive Settled {α γ : Type} (fix? : α → Option Fix) (message : α → γ) :
    Option α → Option α → Prop
  | silent : Settled fix? message none none
  | gone {before : α} (offered : (fix? before).isSome = true) :
    Settled fix? message (some before) none
  | again {before after : α} (refused : fix? before = none) (refused' : fix? after = none)
    (same : message after = message before) : Settled fix? message (some before) (some after)

/-- Only syntax errors keep a literal from being offered an entry. -/
theorem fix?_missing (literal : object.kind = "object") (entry : String) :
    (missing object entry).fix? = none ↔ object.hasError = true := by
  have opened : (some object).bind unwrap = some object := unwrap_of_object literal
  rw [missing, Fix.insertEntry, opened]
  simp only [literal, ne_eq, not_true_eq_false, if_false]
  split
  next broken => simp [Except.toOption, broken]
  next clean =>
    split
    · simp [Except.toOption, clean]
    · simp [Except.toOption, clean]

theorem Settled.of_missing {object' : Node} (alike : Alike object object')
    (literal : object.kind = "object") {entry : String}
    (refused : (missing object entry).fix? = none) :
    Settled Verdict.fix? Verdict.message (some (missing object entry))
      (some (missing object' entry)) := by
  refine .again refused ?_ rfl
  rw [fix?_missing (alike.kind.trans literal), alike.hasError]
  exact (fix?_missing literal entry).1 refused

theorem headersVerdict?_of_statesType {headers : Node}
    (found : headers.lookup? "content-type" = some entry) (states : StatesType entry) :
    headersVerdict? headers = none := by
  have matched : Text.contains (Text.lower mediaType) mediaType = true := by decide +kernel
  rw [headersVerdict?, found]
  simp only [states.value, Option.bind_eq_bind, Option.bind_some, matched, if_true]

variable {gain? : Node → Option Tree} {copied : Node → Node → Prop}

/-- A literal whose new entry would be found gains none, if nothing new is found. -/
theorem gain?_of_unnamed {key : String}
    (unnamed : ∀ pair, gain? object = some pair →
      ∃ entry, copied (root pair) entry ∧ entry.hasKey key = false)
    (named : ∀ pair entry, gain? object = some pair → copied (root pair) entry →
      entry.hasKey key = true) : gain? object = none := by
  cases gained : gain? object with
  | none => rfl
  | some pair =>
    obtain ⟨entry, added, unkeyed⟩ := unnamed pair gained
    cases unkeyed.symm.trans (named pair entry gained added)

theorem settled_headersVerdict? {headers headers' : Node}
    (same : Reparsed gain? copied headers headers') (literal : headers.kind = "object")
    (gains : ∀ pair, gain? headers = some pair →
      (∃ verdict, headersVerdict? headers = some verdict ∧ verdict.fix?.isSome = true) ∧
        ∀ entry, copied (root pair) entry → StatesType entry)
    (refuses : gain? headers = none →
      ∀ verdict, headersVerdict? headers = some verdict → verdict.fix? = none) :
    Settled Verdict.fix? Verdict.message (headersVerdict? headers) (headersVerdict? headers') := by
  rcases same.lookup? literal "content-type" with
    ⟨found, unnamed⟩ | ⟨pair, entry, gained, added, _, found⟩
  · have plain : gain? headers = none := gain?_of_unnamed unnamed fun pair entry gained added =>
      ((gains pair gained).2 entry added).key
    cases before : headers.lookup? "content-type" with
    | none =>
      rw [before] at found
      have refused := refuses plain
      rw [headersVerdict?, before] at refused
      rw [headersVerdict?, headersVerdict?, before, eq_none_of_rel_none found]
      simp only [same.hasDynamicEntry literal plain] at refused ⊢
      split
      · exact .silent
      next fixed => exact .of_missing same.alike literal (refused _ (if_neg fixed))
    | some entry =>
      rw [before] at found
      obtain ⟨entry', after, same'⟩ := exists_of_rel_some found
      rw [headersVerdict?, headersVerdict?, before, after]
      simp only [same'.stringValue_of_lookup? before]
      cases entry.entryValue?.bind stringValue? with
      | none => exact .silent
      | some value =>
        simp only [Option.bind_eq_bind, Option.bind_some]
        split
        · exact .silent
        · exact .again rfl rfl rfl
  · obtain ⟨⟨verdict, judged, offered⟩, states⟩ := gains pair gained
    rw [judged, headersVerdict?_of_statesType found (states entry added)]
    exact .gone offered

theorem optionsVerdict?_of_isHeaders {pair headers : Node}
    (json : (object.value? "body").any isJsonSerialization = true)
    (found : object.lookup? "headers" = some pair)
    (held : pair.entryValue?.bind objectLiteral? = some headers) :
    optionsVerdict? object = headersVerdict? headers := by
  rw [optionsVerdict?, json, found]
  simp only [if_true, held, Option.bind_some]

theorem settled_optionsVerdict? {object' : Node} (same : Reparsed gain? copied object object')
    (literal : object.kind = "object")
    (gains : ∀ pair, gain? object = some pair →
      (∃ verdict, optionsVerdict? object = some verdict ∧ verdict.fix?.isSome = true) ∧
        ∀ entry, copied (root pair) entry → StatesHeaders entry)
    (refuses : gain? object = none → ∀ verdict, optionsVerdict? object = some verdict →
      verdict.place = object → verdict.fix? = none)
    (deeper : ∀ headers headers', IsHeaders object headers →
      optionsVerdict? object = headersVerdict? headers → Reparsed gain? copied headers headers' →
        Settled Verdict.fix? Verdict.message (headersVerdict? headers) (headersVerdict? headers')) :
    Settled Verdict.fix? Verdict.message (optionsVerdict? object) (optionsVerdict? object') := by
  have body : (object'.value? "body").any isJsonSerialization =
      (object.value? "body").any isJsonSerialization := by
    rcases same.lookup? literal "body" with ⟨found, _⟩ | ⟨pair, entry, gained, added, keyed, _⟩
    · have value : Option.Rel (Reparsed gain? copied) (object.value? "body")
          (object'.value? "body") :=
        rel_bind found fun _ found _ same => same.value_of_lookup? found
      exact any_of_rel value fun _ _ same => same.isMemberCall _ _
    · cases keyed.symm.trans ((gains pair gained).2 entry added).body
  cases json : (object.value? "body").any isJsonSerialization with
  | false =>
    rw [optionsVerdict?, optionsVerdict?, body, json]
    exact .silent
  | true =>
    rcases same.lookup? literal "headers" with
      ⟨found, unnamed⟩ | ⟨pair, entry, gained, added, _, found⟩
    · have plain : gain? object = none := gain?_of_unnamed unnamed fun pair entry gained added =>
        ((gains pair gained).2 entry added).key
      cases before : object.lookup? "headers" with
      | none =>
        rw [before] at found
        have refused := refuses plain
        rw [optionsVerdict?, json, before] at refused
        rw [optionsVerdict?, optionsVerdict?, body, json, before, eq_none_of_rel_none found]
        simp only [if_true, same.hasDynamicEntry literal plain] at refused ⊢
        split
        · exact .silent
        next fixed => exact .of_missing same.alike literal (refused _ (if_neg fixed) rfl)
      | some pair =>
        rw [before] at found
        obtain ⟨pair', after, same'⟩ := exists_of_rel_some found
        have held := rel_bind (same'.value_of_lookup? before) fun _ _ _ same => same.objectLiteral?
        cases spelled : pair.entryValue?.bind objectLiteral? with
        | none =>
          rw [spelled] at held
          rw [optionsVerdict?, optionsVerdict?, body, json, before, after]
          simp only [if_true, spelled, eq_none_of_rel_none held, Option.bind_none]
          exact .silent
        | some headers =>
          rw [spelled] at held
          obtain ⟨headers', spelled', same''⟩ := exists_of_rel_some held
          have judged := optionsVerdict?_of_isHeaders json before spelled
          rw [optionsVerdict?_of_isHeaders (body.trans json) after spelled', judged]
          exact deeper headers headers' ⟨pair, before, spelled⟩ judged same''
    · obtain ⟨⟨verdict, judged, offered⟩, states⟩ := gains pair gained
      obtain ⟨headers, held, inner, stated, states⟩ := (states entry added).value
      rw [judged, optionsVerdict?_of_isHeaders (body.trans json) found held,
        headersVerdict?_of_statesType stated states]
      exact .gone offered

theorem place_of_headersVerdict? {headers : Node} {verdict : Verdict}
    (judged : headersVerdict? headers = some verdict) : verdict.place = headers := by
  rw [headersVerdict?] at judged
  split at judged
  · split at judged
    · cases judged
    · cases judged
      rfl
  · obtain ⟨value, _, judged⟩ := Option.bind_eq_some_iff.1 judged
    split at judged
    · cases judged
    · cases judged
      rfl

/-- One round of fixes settles each request that was offered one, and leaves the
others as they were. A literal serves one request only, so what it gains is what
that request was offered. -/
theorem settled_verdict? (listed : call ∈ (root tree).preorder)
    (targets : call.isTargetCall options.target = true)
    (same : Reparsed (gained? options tree) Copied call call') :
    Settled Verdict.fix? Verdict.message (verdict? call) (verdict? call') := by
  have other : call.kind ≠ "object" := by
    rw [kind_of_isTargetCall targets]
    decide
  have given := rel_bind (same.argument? other 1) fun _ _ _ same => same.objectLiteral?
  cases held : (call.argument? 1).bind objectLiteral? with
  | none =>
    rw [held] at given
    rw [verdict?, verdict?, held, eq_none_of_rel_none given]
    exact .silent
  | some object =>
    rw [held] at given
    obtain ⟨object', held', same'⟩ := exists_of_rel_some given
    have isOptions : IsOptions call object := held
    have judged : verdict? call = optionsVerdict? object := by rw [verdict?, held, Option.bind_some]
    have judged' : verdict? call' = optionsVerdict? object' := by
      rw [verdict?, held', Option.bind_some]
    rw [judged, judged']
    refine settled_optionsVerdict? same' (kind_of_isOptions isOptions) ?_ ?_ ?_
    · intro pair gained
      rcases gained?_cases listed targets (.options isOptions) with
        ⟨plain, _⟩ | ⟨gains, verdict, found, offered⟩
      · cases plain.symm.trans gained
      · rw [if_pos isOptions] at gains
        cases gains.symm.trans gained
        exact ⟨⟨verdict, judged.symm.trans found, offered⟩, fun entry => statesHeaders_of_copied⟩
    · intro plain verdict found here
      rcases gained?_cases listed targets (.options isOptions) with ⟨_, refused⟩ | ⟨gains, _⟩
      · exact refused verdict (judged.trans found) here
      · cases plain.symm.trans gains
    · intro headers headers' named deeper same''
      have supplies := Supplies.headers isOptions named
      refine settled_headersVerdict? same'' (kind_of_isHeaders named) ?_ ?_
      · intro pair gained
        rcases gained?_cases listed targets supplies with
          ⟨plain, _⟩ | ⟨gains, verdict, found, offered⟩
        · cases plain.symm.trans gained
        · rw [if_neg (not_isOptions_of_isHeaders (kind_of_isOptions isOptions) named)] at gains
          cases gains.symm.trans gained
          exact ⟨⟨verdict, (judged.trans deeper).symm.trans found, offered⟩,
            fun entry => statesType_of_copied⟩
      · intro plain verdict found
        rcases gained?_cases listed targets supplies with ⟨_, refused⟩ | ⟨gains, _⟩
        · exact refused verdict ((judged.trans deeper).trans found) (place_of_headersVerdict? found)
        · cases plain.symm.trans gains

theorem targetCalls_of_copied {target : String} {pair : Tree}
    (known : pair = headersPair ∨ pair = headerPair) (same : Copied (root pair) entry) :
    entry.targetCalls target = [] := by
  have plain : ∀ node ∈ (root pair).preorder, node.kind ≠ "call_expression" := by
    rcases known with rfl | rfl
    · decide +kernel
    · decide +kernel
  have silent : (root pair).targetCalls target = [] :=
    List.filter_eq_nil_iff.2 fun node listed => mt kind_of_isTargetCall (plain node listed)
  have both : List.Forall₂ Copied ((root pair).targetCalls target) (entry.targetCalls target) := by
    refine Reparsed.targetCalls ?_ same
    intro node pair entry gains
    cases gains
  rw [silent] at both
  exact List.forall₂_nil_left_iff.1 both

/-- What the rule says about one request. -/
def said? (options : Options) (source : Bytes) (file? : Option String) : Node → Option Diagnostic :=
  Analysis.report? .jsonContentType options verdict? source file?

theorem diagnose_eq (distinct : tree.DistinctCalls) (source : Bytes) (file? : Option String) :
    Analysis.diagnose ⟨options, [.jsonContentType]⟩ (root tree) source file? =
      ((root tree).targetCalls options.target).filterMap (said? options source file?) :=
  Analysis.diagnose_of_onTarget distinct
    (Rule.actsBy_onTarget (by decide) fun _ _ _ => rfl) source file?

/-- A verdict is reported with its fix and its message. -/
theorem Settled.said? {source source' : Bytes} {file? : Option String}
    (settled : Settled Verdict.fix? Verdict.message (verdict? call) (verdict? call')) :
    Settled Diagnostic.fix? Diagnostic.messageId (said? options source file? call)
      (JsonContentType.said? options source' file? call') := by
  rw [JsonContentType.said?, JsonContentType.said?, Analysis.report?, Analysis.report?]
  revert settled
  generalize verdict? call = before, verdict? call' = after
  intro settled
  cases settled with
  | silent => exact .silent
  | gone offered => exact .gone offered
  | again refused refused' same => exact .again refused refused' (congrArg Message.id same)

theorem settled_sites (reparsed : Reparsed (gained? options old) Copied (root old) (root new))
    (source source' : Bytes) (file? : Option String) :
    List.Forall₂ (fun site site' => Reparsed (gained? options old) Copied site site' ∧
        Settled Diagnostic.fix? Diagnostic.messageId (said? options source file? site)
          (said? options source' file? site'))
      ((root old).targetCalls options.target) ((root new).targetCalls options.target) := by
  have both : List.Forall₂ (Reparsed (gained? options old) Copied)
      ((root old).targetCalls options.target) ((root new).targetCalls options.target) :=
    reparsed.targetCalls fun node pair entry gains added =>
      targetCalls_of_copied (pair_of_gained? gains) added
  have members : ∀ site ∈ (root old).targetCalls options.target,
      site ∈ (root old).preorder ∧ site.isTargetCall options.target = true :=
    fun site member => List.mem_filter.1 member
  refine ((List.forall₂_and_left _ _).2 ⟨members, both⟩).imp ?_
  rintro site site' ⟨⟨listed, targets⟩, same⟩
  exact ⟨same, (settled_verdict? listed targets same).said?⟩

theorem refused_of_settled {α : Type} {sites sites' : List α} {before after : α → Option Diagnostic}
    (settled : List.Forall₂ (fun site site' =>
      Settled Diagnostic.fix? Diagnostic.messageId (before site) (after site')) sites sites') :
    (sites'.filterMap after).filterMap Diagnostic.fix? = [] := by
  induction settled with
  | nil => rfl
  | @cons site site' _ _ settled _ ih =>
    rw [List.filterMap_cons]
    revert settled
    generalize before site = said, after site' = said'
    intro settled
    cases settled with
    | silent => exact ih
    | gone => exact ih
    | again _ refused' => simp only [List.filterMap_cons, refused', ih]

/-- The content type that is missing is supplied by one round of fixes. `new` is the
tree of the fixed source: each literal that a fix was offered for has gained its
entry, and all else is unchanged up to offsets. Its requests are those of `old`, in
the same order. One that was offered a fix is not reported again; any other is
reported as before, with the same message, or still not at all. No fix is offered
any more, so further rounds leave the source as it is. -/
theorem one_round_settles (options : Options) (old new : Tree) (source source' : Bytes)
    (file? : Option String) (distinct : old.DistinctCalls) (distinct' : new.DistinctCalls)
    (reparsed : Reparsed (gained? options old) Copied (root old) (root new)) :
    ∃ analysis, Analysis.ofIds options (some ["require-json-content-type"]) = .ok analysis ∧
      analysis.diagnose (root old) source file? =
        ((root old).targetCalls options.target).filterMap (said? options source file?) ∧
      analysis.diagnose (root new) source' file? =
        ((root new).targetCalls options.target).filterMap (said? options source' file?) ∧
      List.Forall₂ (fun site site' => Reparsed (gained? options old) Copied site site' ∧
          Settled Diagnostic.fix? Diagnostic.messageId (said? options source file? site)
            (said? options source' file? site'))
        ((root old).targetCalls options.target) ((root new).targetCalls options.target) ∧
      (analysis.diagnose (root new) source' file?).filterMap Diagnostic.fix? = [] ∧
      ∀ (parser : Parser) (language : Language) (passes : Nat), parser language source' = new →
        analysis.repair parser language (passes + 1) source' =
          [(analysis.diagnose (root new) source' none, source')] := by
  have unoffered (file? : Option String) : (Analysis.diagnose ⟨options, [.jsonContentType]⟩
      (root new) source' file?).filterMap Diagnostic.fix? = [] := by
    rw [diagnose_eq distinct']
    exact refused_of_settled
      ((settled_sites reparsed source source' file?).imp fun _ _ => And.right)
  refine ⟨_, Analysis.ofIds_of_rule options .jsonContentType, diagnose_eq distinct source file?,
    diagnose_eq distinct' source' file?, settled_sites reparsed source source' file?,
    unoffered file?, ?_⟩
  rintro parser language passes rfl
  rw [Analysis.repair]
  split
  · rfl
  next offers => exact absurd (unoffered none) offers

theorem nestedRequests_reparsed : Reparsed (gained? {} nestedRequests) Copied (root nestedRequests)
    (root repairedRequests) := by
  have copies (node node' : Node)
      (checked : reparses (fun _ => none) (fun _ _ => false) node node' = true) :
      Copied node node' := reparsed_of_reparses (fun _ _ never => nomatch never) checked
  exact reparsed_of_reparses copies (by decide +kernel)

theorem one_round_settles_nestedRequests :
    nestedRequests.DistinctCalls ∧ repairedRequests.DistinctCalls ∧
    Reparsed (gained? {} nestedRequests) Copied (root nestedRequests) (root repairedRequests) ∧
    ∃ analysis, Analysis.ofIds {} (some ["require-json-content-type"]) = .ok analysis ∧
      ((analysis.diagnose (root nestedRequests) nestedRequests.source none).filterMap
        Diagnostic.fix?).map Fix.start = [17, 71] ∧
      (analysis.diagnose (root repairedRequests) repairedRequests.source none).filterMap
        Diagnostic.fix? = [] ∧
      ∀ (parser : Parser) (language : Language) (passes : Nat),
        parser language repairedRequests.source = repairedRequests →
        analysis.repair parser language (passes + 1) repairedRequests.source =
          [(analysis.diagnose (root repairedRequests) repairedRequests.source none,
            repairedRequests.source)] := by
  have distinct : nestedRequests.DistinctCalls := Tree.distinctCalls_of_nodup (by decide +kernel)
  have distinct' : repairedRequests.DistinctCalls := Tree.distinctCalls_of_nodup (by decide +kernel)
  obtain ⟨analysis, accepted, diagnosed, _, _, unoffered, stays⟩ := one_round_settles {}
    nestedRequests repairedRequests nestedRequests.source repairedRequests.source none distinct
    distinct' nestedRequests_reparsed
  refine ⟨distinct, distinct', nestedRequests_reparsed, analysis, accepted, ?_, unoffered, stays⟩
  rw [diagnosed]
  decide +kernel

end RequestLint.JsonContentType
