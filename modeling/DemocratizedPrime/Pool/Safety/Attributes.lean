import DemocratizedPrime.Pool.Safety.Isolation

/-!
# Required attributes

The attribute names of an account are made of labels with dots between them.  A required
attribute is the name itself, or `*.` before a name, which stands for every name below that
one (`Matches`).

The pool asks the host.  `AnswersFrom deps holds` is what the host's module documents, for
accounts that hold the names `holds`: an exact query finds the name if it is held, and a scan
pages through the held names with the suffix, where a page with a successor is full.  Under
it the pool's scan, which gives up after five pages, is exact (`validateAccountAttrs_eq`), and
so a message passes only if the account that it names has everything (`PoolStep.needs_met`).
-/

namespace DemocratizedPrime

open Result Transitions

/-! ## Patterns -/

/-- What a required attribute stands for. -/
inductive AttributePattern
  | exact (name : String)
  | below (labels : List (List Char))
deriving DecidableEq

/-- A text with a leading `*.` stands for all names below the rest. -/
def AttributePattern.parse (required : String) : AttributePattern :=
  match required.toList with
  | '*' :: '.' :: rest => .below (rest.splitOn '.')
  | _ => .exact required

theorem AttributePattern.parse_below {required : String} {rest : List Char}
    (h : required.toList = '*' :: '.' :: rest) : parse required = .below (rest.splitOn '.') := by
  rw [parse, h]
  rfl

theorem AttributePattern.parse_exact {required : String}
    (h : ∀ rest, required.toList ≠ '*' :: '.' :: rest) : parse required = .exact required := by
  unfold parse
  split
  · rename_i rest hrest
    exact absurd hrest (h rest)
  · rfl

/-- The names that a pattern stands for. -/
def AttributePattern.Matches : AttributePattern → String → Prop
  | .exact required, name => name = required
  | .below labels, name => ∃ front, front ≠ [] ∧ name.toList.splitOn '.' = front ++ labels

/-- A name that can be required: labels without wildcards and spaces. -/
def AttributePattern.Valid : AttributePattern → Prop
  | .exact name => name ≠ "" ∧ (∀ c ∈ name.toList, isWhiteSpace c = false ∧ c ≠ '*')
  | .below labels => ∀ label ∈ labels, label ≠ [] ∧ ∀ c ∈ label, isWhiteSpace c = false ∧ c ≠ '*'

theorem intercalate_append {α : Type} (sep : α) {labels more : List (List α)}
    (hlabels : labels ≠ []) (hmore : more ≠ []) :
    [sep].intercalate (labels ++ more) =
      [sep].intercalate labels ++ sep :: [sep].intercalate more := by
  induction labels with
  | nil => exact absurd rfl hlabels
  | cons l ls ih =>
    rw [List.cons_append, List.intercalate_cons_of_ne_nil (by simp [hmore])]
    cases ls with
    | nil => simp [List.intercalate_singleton]
    | cons l' ls' =>
      rw [ih (List.cons_ne_nil _ _), List.intercalate_cons_cons]
      simp

/-- A suffix that begins with the separator is a suffix of labels, with something before. -/
theorem cons_isSuffix_iff {α : Type} [DecidableEq α] {sep : α} {rest xs : List α} :
    sep :: rest <:+ xs ↔ ∃ front, front ≠ [] ∧ xs.splitOn sep = front ++ rest.splitOn sep := by
  constructor
  · rintro ⟨front, rfl⟩
    exact ⟨front.splitOn sep, List.splitOn_ne_nil _ _, List.splitOn_append_cons_self front rest⟩
  · rintro ⟨front, hfront, hsplit⟩
    refine ⟨[sep].intercalate front, ?_⟩
    have hjoined := intercalate_append sep hfront (List.splitOn_ne_nil sep rest)
    rw [← hsplit, List.intercalate_splitOn, List.intercalate_splitOn] at hjoined
    exact hjoined.symm

theorem mem_of_mem_splitOn {α : Type} [DecidableEq α] {sep a : α} {xs label : List α}
    (hlabel : label ∈ xs.splitOn sep) (ha : a ∈ label) : a ∈ xs := by
  have hjoined : a ∈ [sep].intercalate (xs.splitOn sep) := by
    obtain ⟨i, hi⟩ := List.mem_iff_getElem?.mp hlabel
    have hjoin : ((xs.splitOn sep).intersperse [sep])[2 * i]? = some label := by
      rw [List.getElem?_intersperse_two_mul]
      exact hi
    exact List.mem_flatten.mpr ⟨label, List.mem_of_getElem? hjoin, ha⟩
  rwa [List.intercalate_splitOn] at hjoined

/-- A pattern that passes the check is valid. -/
theorem validateRequiredAttrPattern_valid {required : String}
    (h : validateRequiredAttrPattern required = .ok ()) :
    (AttributePattern.parse required).Valid := by
  simp only [validateRequiredAttrPattern, bind_eq_ok, ensure_eq_ok, exists_const] at h
  obtain ⟨hblank, hspace, h⟩ := h
  have hchars : ∀ c ∈ required.toList, isWhiteSpace c = false := by
    simpa [List.any_eq_false] using hspace
  split at h
  · rename_i hstar
    split at h
    · rename_i suffix hrequired
      simp only [bind_eq_ok, ensure_eq_ok, exists_const] at h
      obtain ⟨-, hsuffix, hlabels⟩ := h
      rw [AttributePattern.parse_below hrequired]
      intro label hlabel
      refine ⟨fun hempty => ?_, fun c hc => ?_⟩
      · simp only [List.any_eq_false, List.isEmpty_iff] at hlabels
        exact hlabels label hlabel hempty
      · have hmem := mem_of_mem_splitOn hlabel hc
        refine ⟨hchars c (by simp [hrequired, hmem]), fun he => ?_⟩
        rw [he] at hmem
        simp [hmem] at hsuffix
    · cases h
  · rename_i hstar
    have hnone : '*' ∉ required.toList := by simpa using hstar
    rw [AttributePattern.parse_exact fun rest he => hnone (by simp [he])]
    refine ⟨fun hempty => hblank ?_, fun c hc => ⟨hchars c hc, fun he => hnone (he ▸ hc)⟩⟩
    rw [hempty]
    decide +kernel

/-- One of the names is what is required. -/
def HasAttribute (names : List String) (required : String) : Prop :=
  ∃ name ∈ names, (AttributePattern.parse required).Matches name

/-! ## The host -/

/-- `ATTR_SCAN_PAGE_LIMIT`. -/
def attrScanPageLimit : Nat := 100

/-- The pages of a scan from a key on.  Only a full page has a successor. -/
inductive ScanPages (deps : Deps) (account suffix : String) : String → List (List String) → Prop
  | last {key : String} {page : AttributePage} (scan : deps.scan account suffix key = .ok page)
      (done : page.nextKey.filter (· ≠ "") = none) :
      ScanPages deps account suffix key [page.names]
  | more {key next : String} {page : AttributePage} {rest : List (List String)}
      (scan : deps.scan account suffix key = .ok page)
      (successor : page.nextKey.filter (· ≠ "") = some next)
      (full : page.names.length = attrScanPageLimit)
      (later : ScanPages deps account suffix next rest) :
      ScanPages deps account suffix key (page.names :: rest)

/-- The attribute queries are answered for accounts that hold these names. -/
structure AnswersFrom (deps : Deps) (holds : Addr → List String) : Prop where
  exact : ∀ account name, ∃ names, deps.attributeNames account name = .ok names ∧
    (names ≠ [] ↔ name ∈ holds account)
  scan : ∀ account suffix, ∃ pages, ScanPages deps account suffix "" pages ∧
    pages.flatten = (holds account).filter fun name => suffix.toList.isSuffixOf name.toList

section

variable {deps : Deps} {holds : Addr → List String} {account required role suffix key : String}

/-! ## The check -/

/-- A scan of names that all match sees one on its first page, if there are any. -/
theorem ScanPages.hasMatch {pages : List (List String)}
    (h : ScanPages deps account suffix key pages)
    (hmatch : ∀ name ∈ pages.flatten, suffix.toList.isSuffixOf name.toList = true) (fuel : Nat) :
    scanHasWildcardMatch deps account suffix (fuel + 1) key =
      .ok (decide (pages.flatten ≠ [])) := by
  cases h with
  | @last _ page scan done =>
    have hscan : fromStd (deps.scan account suffix key) = .ok page := by rw [scan]; rfl
    rw [scanHasWildcardMatch, hscan, ok_bind, done]
    rw [List.flatten_singleton] at hmatch ⊢
    cases hnames : page.names with
    | nil => rfl
    | cons name rest =>
      rw [List.any_cons, hmatch name (by simp [hnames]), Bool.true_or]
      rfl
  | @more _ next page rest scan successor full _ =>
    have hscan : fromStd (deps.scan account suffix key) = .ok page := by rw [scan]; rfl
    rw [scanHasWildcardMatch, hscan, ok_bind]
    cases hnames : page.names with
    | nil =>
      rw [hnames] at full
      cases full
    | cons name more =>
      rw [List.any_cons, hmatch name (by simp [hnames]), Bool.true_or]
      rfl

/-- One attribute is found exactly when the account has it. -/
theorem accountHasRequiredAttribute_eq (host : AnswersFrom deps holds)
    (account required : String) :
    ∃ present, accountHasRequiredAttribute deps account required = .ok present ∧
      (present = true ↔ HasAttribute (holds account) required) := by
  unfold accountHasRequiredAttribute HasAttribute
  split
  · rename_i rest hrequired
    obtain ⟨pages, hpages, hflatten⟩ := host.scan account (String.ofList ('.' :: rest))
    refine ⟨_, hpages.hasMatch (fun name hname => ?_) 4, ?_⟩
    · rw [hflatten] at hname
      exact (List.mem_filter.mp hname).2
    · rw [hflatten, decide_eq_true_eq, ne_eq, List.filter_eq_nil_iff, String.toList_ofList,
        AttributePattern.parse_below hrequired]
      simp only [AttributePattern.Matches, List.isSuffixOf_iff_suffix, cons_isSuffix_iff]
      push Not
      rfl
  · rename_i hrequired
    obtain ⟨names, hnames, hheld⟩ := host.exact account required
    have hanswer : fromStd (deps.attributeNames account required) = .ok names := by
      rw [hnames]
      rfl
    refine ⟨!names.isEmpty, ?_, ?_⟩
    · rw [hanswer]
      rfl
    · rw [AttributePattern.parse_exact fun rest he => hrequired rest he]
      simp only [AttributePattern.Matches, exists_eq_right, ← hheld]
      cases names <;> simp

/-- The refusal of an account, which names the whole list. -/
def missingAttribute (role : String) (attrs : List String) : ContractError :=
  let names := String.intercalate ", " attrs
  notAuthorized s!"Missing required {role} attribute; must have all of: [{names}]"

theorem requireAttribute_eq (host : AnswersFrom deps holds) (attrs : List String) :
    (HasAttribute (holds account) required →
      requireAttribute deps account attrs role required = .ok ()) ∧
    (¬ HasAttribute (holds account) required →
      requireAttribute deps account attrs role required =
        .error (missingAttribute role attrs)) := by
  obtain ⟨present, hpresent, hhas⟩ := accountHasRequiredAttribute_eq host account required
  unfold requireAttribute
  rw [hpresent, ok_bind, ← hhas]
  refine ⟨fun h => ensure_eq_ok.mpr h, fun h => ?_⟩
  rw [ensure, if_neg h]
  rfl

/-- The check of a list succeeds when the account has everything, and is refused otherwise. -/
theorem validateAccountAttrs_eq (host : AnswersFrom deps holds) (account role : String)
    (attrs : List String) :
    ((∀ required ∈ attrs, HasAttribute (holds account) required) →
      validateAccountAttrs deps account attrs role = .ok ()) ∧
    ((¬ ∀ required ∈ attrs, HasAttribute (holds account) required) →
      validateAccountAttrs deps account attrs role = .error (missingAttribute role attrs)) := by
  refine ⟨fun h => forM_eq_ok.mpr fun required hmem => (requireAttribute_eq host attrs).1
    (h required hmem), fun h => ?_⟩
  suffices hloop : ∀ l : List String, (¬ ∀ required ∈ l, HasAttribute (holds account) required) →
      l.forM (requireAttribute deps account attrs role) = .error (missingAttribute role attrs) from
    hloop attrs h
  intro l
  induction l with
  | nil => exact fun hl => absurd (fun _ hmem => nomatch hmem) hl
  | cons first rest ih =>
    intro hl
    have hcons : (first :: rest).forM (requireAttribute deps account attrs role) =
      (requireAttribute deps account attrs role first >>= fun _ =>
        rest.forM (requireAttribute deps account attrs role)) := rfl
    rw [hcons]
    by_cases hfirst : HasAttribute (holds account) first
    · rw [(requireAttribute_eq host attrs).1 hfirst, ok_bind]
      refine ih fun hrest => hl fun required hmem => ?_
      rcases List.mem_cons.mp hmem with rfl | hmem
      · exact hfirst
      · exact hrest required hmem
    · rw [(requireAttribute_eq host attrs).2 hfirst]
      rfl

end

/-! ## The messages -/

/-- The accounts whose attributes a message needs, with each attribute. -/
def Event.needs (s : PoolStorage) (e : Event) : List (Addr × String) :=
  match e.msg with
  | .lend => s.contract.lenderRequiredAttrs.map fun required => (e.info.sender, required)
  | .borrow _ | .addCollateral | .removeCollateral _ =>
    s.contract.borrowerRequiredAttrs.map fun required => (e.info.sender, required)
  | .receive cw20Msg =>
    match cw20Msg.payload with
    | .ok (.transfer recipient _) | .ok (.transferExact recipient) =>
      s.contract.lenderRequiredAttrs.map fun required => (recipient, required)
    | _ => []
  | _ => []

section

variable {s s' : PoolStorage} {e : Event} {holds : Addr → List String}

theorem hasAttribute_of_validate {deps : Deps} {account role : String} {attrs : List String}
    (host : AnswersFrom deps holds) (h : validateAccountAttrs deps account attrs role = .ok ()) :
    ∀ x ∈ attrs.map fun required => (account, required), HasAttribute (holds x.1) x.2 := by
  intro x hx
  obtain ⟨required, hmem, rfl⟩ := List.mem_map.mp hx
  by_contra hno
  have hall : ¬ ∀ required ∈ attrs, HasAttribute (holds account) required :=
    fun hall => hno (hall required hmem)
  rw [(validateAccountAttrs_eq host account role attrs).2 hall] at h
  cases h

/-- A message passes only if the accounts have what it needs. -/
theorem PoolStep.needs_met (h : PoolStep s e s') (host : AnswersFrom e.deps holds) :
    ∀ x ∈ e.needs s, HasAttribute (holds x.1) x.2 := by
  have hd : dispatch e.deps s e.env e.info e.msg = .ok (s', e.response) := execute_eq_ok h
  unfold Event.needs
  cases hm : e.msg with
  | lend =>
    rw [hm] at hd
    have hlend : lend e.deps s e.env e.info = .ok (s', e.response) := hd
    simp only [lend, bind_eq_ok] at hlend
    obtain ⟨_, -, ⟨⟩, hattrs, -⟩ := hlend
    exact hasAttribute_of_validate host hattrs
  | borrow amount =>
    rw [hm] at hd
    have hborrow : borrow e.deps s e.env e.info amount = .ok (s', e.response) := hd
    simp only [borrow, bind_eq_ok, ensure_eq_ok, exists_const] at hborrow
    obtain ⟨-, -, -, ⟨⟩, hattrs, -⟩ := hborrow
    exact hasAttribute_of_validate host hattrs
  | addCollateral =>
    rw [hm] at hd
    have hadd : addCollateral e.deps s e.env e.info = .ok (s', e.response) := hd
    simp only [addCollateral, bind_eq_ok] at hadd
    obtain ⟨⟨⟩, hattrs, -⟩ := hadd
    exact hasAttribute_of_validate host hattrs
  | removeCollateral toRemove =>
    rw [hm] at hd
    have hremove : removeCollateral e.deps s e.env e.info toRemove = .ok (s', e.response) := hd
    simp only [removeCollateral, bind_eq_ok, ensure_eq_ok, exists_const] at hremove
    obtain ⟨-, ⟨⟩, hattrs, -⟩ := hremove
    exact hasAttribute_of_validate host hattrs
  | receive cw20Msg =>
    rw [hm] at hd
    obtain ⟨holder, received, body⟩ := cw20Msg
    obtain ⟨-, payload, rfl, ⟨_, _, _, hbody, -⟩ | ⟨recipient, amount, exact, hbody, htransfer⟩⟩ :=
      receive_spec hd
    · intro x hx
      cases hbody <;> cases hx
    · simp only [executeTransferCw20, bind_eq_ok, ensure_eq_ok, exists_const,
        addrValidate_eq_ok] at htransfer
      obtain ⟨-, -, _, ⟨-, rfl⟩, -, _, -, ⟨⟩, hattrs, -⟩ := htransfer
      have hmet := hasAttribute_of_validate host hattrs
      cases hbody <;> exact hmet
  | _ =>
    intro x hx
    cases hx

/-- The stored lists are short, and their patterns valid. -/
structure AttrsValid (s : PoolStorage) : Prop where
  lender : s.contract.lenderRequiredAttrs.length ≤ maxLenderBorrowerRequiredAttrs ∧
    ∀ required ∈ s.contract.lenderRequiredAttrs, (AttributePattern.parse required).Valid
  borrower : s.contract.borrowerRequiredAttrs.length ≤ maxLenderBorrowerRequiredAttrs ∧
    ∀ required ∈ s.contract.borrowerRequiredAttrs, (AttributePattern.parse required).Valid

theorem validateRequiredAttrPatterns_valid {attrs : List String}
    (h : validateRequiredAttrPatterns attrs = .ok ()) :
    ∀ required ∈ attrs, (AttributePattern.parse required).Valid :=
  fun required hmem => validateRequiredAttrPattern_valid (forM_eq_ok.mp h required hmem)

theorem DeployedAt.attrsValid {t : Timestamp} (h : DeployedAt t s) : AttrsValid s := by
  induction h with
  | instantiated time h =>
    simp only [instantiate, bind_eq_ok, Prod.exists, ensure_eq_ok, exists_const, pure_eq_ok,
      Prod.mk.injEq, checkStaleness, checkAttrCount] at h
    obtain ⟨-, -, _, -, _, -, _, _, -, -, -, oracle, -, -, -, -, -, _, -, -, -, -, _, -, hlender,
      hborrower, ⟨⟩, hlenders, ⟨⟩, hborrowers, custodian, -, liquidator, -, rfl, -⟩ := h
    exact ⟨⟨hlender, validateRequiredAttrPatterns_valid hlenders⟩, hborrower,
      validateRequiredAttrPatterns_valid hborrowers⟩
  | replied _ h ih =>
    obtain ⟨addr, -, -, rfl⟩ := reply_spec h
    exact ⟨ih.lender, ih.borrower⟩

theorem checkRequiredAttrs_valid {c : ContractStateV1} {info : MessageInfo} {role : String}
    {attrs : List String} (h : checkRequiredAttrs c info role attrs = .ok ()) :
    attrs.length ≤ maxLenderBorrowerRequiredAttrs ∧
      ∀ required ∈ attrs, (AttributePattern.parse required).Valid := by
  simp only [checkRequiredAttrs, checkAttrCount, bind_eq_ok, ensure_eq_ok, exists_const] at h
  obtain ⟨_, -, -, hcount, hpatterns⟩ := h
  exact ⟨hcount, validateRequiredAttrPatterns_valid hpatterns⟩

theorem AttrsValid.congr (hs : AttrsValid s)
    (hlender : s'.contract.lenderRequiredAttrs = s.contract.lenderRequiredAttrs)
    (hborrower : s'.contract.borrowerRequiredAttrs = s.contract.borrowerRequiredAttrs) :
    AttrsValid s' := by
  refine ⟨?_, ?_⟩
  · rw [hlender]
    exact hs.lender
  · rw [hborrower]
    exact hs.borrower

/-- The lists are written by two messages, which check them. -/
theorem AttrsValid.step (hs : AttrsValid s) (h : PoolStep s e s') : AttrsValid s' := by
  have hd : dispatch e.deps s e.env e.info e.msg = .ok (s', e.response) := execute_eq_ok h
  cases h.effect with
  | neutral msg =>
    cases neutral_settings msg hd with
    | lenderAttrs hm set =>
      rw [hm] at hd
      have hset : setLenderRequiredAttrs s e.info _ = .ok (s', e.response) := hd
      simp only [setLenderRequiredAttrs, bind_eq_ok, pure_eq_ok, Prod.mk.injEq] at hset
      obtain ⟨⟨⟩, hcheck, rfl, -⟩ := hset
      exact ⟨checkRequiredAttrs_valid hcheck, hs.borrower⟩
    | borrowerAttrs hm set =>
      rw [hm] at hd
      have hset : setBorrowerRequiredAttrs s e.info _ = .ok (s', e.response) := hd
      simp only [setBorrowerRequiredAttrs, bind_eq_ok, pure_eq_ok, Prod.mk.injEq] at hset
      obtain ⟨⟨⟩, hcheck, rfl, -⟩ := hset
      exact ⟨hs.lender, checkRequiredAttrs_valid hcheck⟩
    | state _ set => exact hs.congr (by rw [set]) (by rw [set])
    | none same => exact hs.congr (by rw [same]) (by rw [same])
  | updateSupportedCollateral _ _ _ contract =>
    refine hs.congr ?_ ?_ <;> rw [PoolStorage.setContractStateV1_contract, contract]
  | updateContractConfig _ _ _ applied =>
    refine hs.congr ?_ ?_ <;>
      rw [PoolStorage.setContractStateV1_contract, (applyConfigParams_spec applied).1]
  | _ => exact hs.congr rfl rfl

theorem Reachable.attrsValid (h : Reachable s) : AttrsValid s := by
  obtain ⟨t, s₀, ts, hdeployed, run⟩ := h
  exact run.invariant (fun _ _ _ => AttrsValid.step) hdeployed.attrsValid

/-- In every reachable state the stored patterns are valid, and against a host that answers
as documented both checks are exact: an account passes when it has everything on the list,
and is refused otherwise. -/
theorem attribute_checks_exact {deps : Deps} (hreach : Reachable s) (host : AnswersFrom deps holds)
    (account : Addr) :
    AttrsValid s ∧
      ((∀ required ∈ s.contract.lenderRequiredAttrs, HasAttribute (holds account) required) →
        validateLenderAttrs deps account s.contract.lenderRequiredAttrs = .ok ()) ∧
      ((¬ ∀ required ∈ s.contract.lenderRequiredAttrs, HasAttribute (holds account) required) →
        validateLenderAttrs deps account s.contract.lenderRequiredAttrs =
          .error (missingAttribute "lender" s.contract.lenderRequiredAttrs)) ∧
      ((∀ required ∈ s.contract.borrowerRequiredAttrs, HasAttribute (holds account) required) →
        validateBorrowerAttrs deps account s.contract.borrowerRequiredAttrs = .ok ()) ∧
      ((¬ ∀ required ∈ s.contract.borrowerRequiredAttrs, HasAttribute (holds account) required) →
        validateBorrowerAttrs deps account s.contract.borrowerRequiredAttrs =
          .error (missingAttribute "borrower" s.contract.borrowerRequiredAttrs)) := by
  obtain ⟨hlender, hnoLender⟩ :=
    validateAccountAttrs_eq host account "lender" s.contract.lenderRequiredAttrs
  obtain ⟨hborrower, hnoBorrower⟩ :=
    validateAccountAttrs_eq host account "borrower" s.contract.borrowerRequiredAttrs
  exact ⟨hreach.attrsValid, hlender, hnoLender, hborrower, hnoBorrower⟩

end

namespace Demo

/-- A host where every account holds the two names, on one page. -/
def namedDeps : Deps :=
  let names := ["us.kyc.pb", "hackkyc.pb"]
  { deps 10 with
    attributeNames := fun _ name => .ok (names.filter (· = name))
    scan := fun _ suffix _ =>
      .ok ⟨names.filter fun name => suffix.toList.isSuffixOf name.toList, none⟩ }

theorem namedDeps_answers : AnswersFrom namedDeps fun _ => ["us.kyc.pb", "hackkyc.pb"] where
  exact account name := by
    refine ⟨["us.kyc.pb", "hackkyc.pb"].filter (· = name), rfl, ?_⟩
    rw [ne_eq, List.filter_eq_nil_iff]
    simp only [decide_eq_true_eq, not_forall, not_not, exists_prop, exists_eq_right]
  scan account suffix := ⟨_, .last rfl rfl, by rw [List.flatten_singleton]⟩

/-- Only `us.kyc.pb` is below `kyc.pb`. -/
def kycMsg : InstantiateMsg :=
  { msg with lenderRequiredAttrs := ["*.kyc.pb"], borrowerRequiredAttrs := ["*.pb", "kyc.pb"] }

/-- The pool has the two lists of patterns. -/
def kycCheck (s : PoolStorage) : Bool :=
  decide (s.contract.lenderRequiredAttrs = ["*.kyc.pb"] ∧
    s.contract.borrowerRequiredAttrs = ["*.pb", "kyc.pb"])

theorem kyc_ok : replayCheck (deps 10) (env 0) ⟨"owner", []⟩ kycMsg [] kycCheck = true := by
  decide +kernel

theorem kyc_check {s : PoolStorage} (h : kycCheck s = true) :
    s.contract.lenderRequiredAttrs = ["*.kyc.pb"] ∧
      s.contract.borrowerRequiredAttrs = ["*.pb", "kyc.pb"] := by
  simpa [kycCheck] using h

theorem hasAttribute_kyc : HasAttribute ["us.kyc.pb", "hackkyc.pb"] "*.kyc.pb" :=
  ⟨"us.kyc.pb", by simp, ["us".toList], by simp, by decide +kernel⟩

theorem not_hasAttribute_kyc : ¬ HasAttribute ["us.kyc.pb", "hackkyc.pb"] "kyc.pb" := by
  rintro ⟨name, hmem, hmatch⟩
  have hname : name = "kyc.pb" := hmatch
  rw [hname] at hmem
  revert hmem
  decide

end Demo

/-- The lender is let in, and the borrower, who has no attribute `kyc.pb` itself, is not. -/
theorem attribute_checks_exact_kyc :
    ∃ s, Reachable s ∧
      validateLenderAttrs Demo.namedDeps "carol" s.contract.lenderRequiredAttrs = .ok () ∧
      validateBorrowerAttrs Demo.namedDeps "carol" s.contract.borrowerRequiredAttrs =
        .error (missingAttribute "borrower" ["*.pb", "kyc.pb"]) := by
  obtain ⟨s₀, ts, s, hdeployed, run, -, hcheck⟩ := exists_run Demo.kyc_ok
  obtain ⟨hlenders, hborrowers⟩ := Demo.kyc_check hcheck
  have hreach : Reachable s := ⟨_, s₀, ts, hdeployed, run⟩
  obtain ⟨-, hlender, -, -, hborrower⟩ :=
    attribute_checks_exact hreach Demo.namedDeps_answers "carol"
  refine ⟨s, hreach, hlender ?_, ?_⟩
  · rw [hlenders]
    simpa using Demo.hasAttribute_kyc
  · rw [← hborrowers]
    refine hborrower fun hall => Demo.not_hasAttribute_kyc ?_
    exact hall "kyc.pb" (by rw [hborrowers]; simp)

end DemocratizedPrime
