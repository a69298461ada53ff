import RestRoutes.Proofs.Api.Agreement
import RestRoutes.Proofs.Api.Listing
import RestRoutes.Proofs.Generate.Report

/-! What is not read of a document has no effect on the routes: two documents that are alike are generated
from alike, to the end or up to the same failure.  The order of the methods inside a path is of the
same kind, since the operations of a path are looked up method by method. -/

namespace RestRoutes

open Api Visit

namespace Api

variable {version : Document.Version}

/-- Operations of a path, by the same methods, that are alike. -/
def RawsAlike (version : Document.Version) (raws raws' : List (Method × Value)) : Prop :=
  List.Forall₂ (fun a b => a.1 = b.1 ∧ Alike version false (.object .operation) a.2 b.2) raws raws'

theorem Alike.rawOperations {v w : Value} (h : Alike version false (.object .pathItem) v w) :
    RawsAlike version (Builder.rawOperations v) (Builder.rawOperations w) := by
  unfold Builder.rawOperations
  -- Both sides run over the methods, not over the entries of the path.
  refine List.rel_filterMap (R := Eq) ?_ (List.forall₂_same.mpr fun m _ => rfl)
  intro m m' hm
  subst hm
  have hRaw : Alike version false (.object .operation) (v.get m.name) (w.get m.name) := by
    refine h.get (by decide) (List.mem_cons_of_mem _ (List.mem_map.mpr ⟨m, ?_, rfl⟩))
    cases m <;> decide
  simp only [hRaw.isMap_eq (by decide)]
  split
  · exact .some ⟨rfl, hRaw⟩
  · exact .none

theorem Alike.paths {v w : Value} (h : Alike version false (.object .document) v w) :
    Alike.Entries version false .pathItem (Builder.paths v) (Builder.paths w) := by
  have hPaths : Alike version false (.entries .pathItem) (v.get "paths") (w.get "paths") :=
    h.get (by decide) (by simp [Role.fields])
  refine List.rel_filter (fun e f hef => ?_) hPaths.entries
  exact iff_of_eq (congrArg (· = true) (hef.2.isMap_eq (by decide)))

theorem Alike.operation {raw raw' : Value} (h : Alike version false (.object .operation) raw raw')
    {shared shared' : List Value}
    (hShared : List.Forall₂ (Alike version false (.object .parameter)) shared shared')
    (path : String) :
    Builder.operation version path raw shared = Builder.operation version path raw' shared' := by
  have hOwn : Alike version false (.list .parameter) (raw.get "parameters")
      (raw'.get "parameters") := h.get (by decide) (by simp [Role.fields])
  have hBuilt := Builder.operation_agree Schema.respected_eq (fun _ _ hpq => hpq)
    (fun hVersion p q hpq hRef =>
      Builder.openApiParameter_agree Schema.respected_eq (hVersion ▸ hpq) hRef)
    path h hOwn.items hShared
  exact Logged.ext hBuilt.log (hBuilt.outcome.imp fun _ _ _ _ hLike => hLike.eq).eq

theorem Alike.version_eq {v w : Value} (h : Alike version false (.object .document) v w) :
    Document.version v = Document.version w := by
  have hSwagger : v.get? "swagger" = w.get? "swagger" := h.mark (by decide) (by decide)
  have hOpenApi : v.get? "openapi" = w.get? "openapi" := h.mark (by decide) (by decide)
  rw [Document.version, Document.version, Value.get, Value.get, hSwagger, hOpenApi]

end Api

namespace Generator

variable {g : Generator}

/-! ### Alike documents -/

theorem basePath_congr {v w : Value} (h : Alike g.version false (.object .document) v w) :
    basePath v g.version = basePath w g.version := by
  have hRaw : rawBasePath v g.version = rawBasePath w g.version := by
    unfold rawBasePath
    cases hVersion : g.version with
    | swagger =>
      have hPath : v.get "basePath" = w.get "basePath" :=
        h.get_eq (by decide) (by simp [Role.fields, hVersion])
      simp only [hPath]
    | openApi | unknown n =>
      have hServers : v.get "servers" = w.get "servers" :=
        h.get_eq (by decide) (by simp [Role.fields, hVersion])
      have hUrl : serverUrl v = serverUrl w := by rw [serverUrl, hServers, serverUrl]
      simp only [hUrl]
  rw [basePath, basePath, hRaw]

theorem visitOperations_congr {raws raws' : List (Method × Value)} {shared shared' : List Value}
    (h : RawsAlike g.version raws raws')
    (hShared : List.Forall₂ (Alike g.version false (.object .parameter)) shared shared')
    (path : String) :
    g.visitOperations path shared raws = g.visitOperations path shared' raws' := by
  induction h with
  | nil => rfl
  | @cons a b raws raws' hHead _ ih =>
    obtain ⟨m, raw⟩ := a
    obtain ⟨m', raw'⟩ := b
    obtain ⟨hMethod, hRaw⟩ := hHead
    cases hMethod
    rw [visitOperations, visitOperations, hRaw.operation hShared path, ih]

theorem visitPaths_congr {es fs : List (Value × Value)}
    (h : Alike.Entries g.version false .pathItem es fs) : g.visitPaths es = g.visitPaths fs := by
  induction h with
  | nil => rfl
  | @cons e f es fs hHead _ ih =>
    obtain ⟨k, v⟩ := e
    obtain ⟨l, w⟩ := f
    obtain ⟨hKey, hItem⟩ := hHead
    cases hKey
    have hShared : Alike g.version false (.list .parameter) (v.get "parameters")
        (w.get "parameters") := hItem.get (by decide) (by simp [Role.fields])
    have hOperations (path : String) :=
      visitOperations_congr hItem.rawOperations hShared.items path
    simp only [visitPaths, hOperations, ih]

/-- The operations are visited by what a generator has besides its document. -/
theorem visitPaths_document (g : Generator) (document : Value) (es : List (Value × Value)) :
    visitPaths { g with document } es = g.visitPaths es := by
  have hOperations (path : String) (shared : List Value) (raws : List (Method × Value)) :
      visitOperations { g with document } path shared raws =
        g.visitOperations path shared raws := by
    induction raws with
    | nil => rfl
    | cons raw rest ih =>
      rw [visitOperations, visitOperations, ih]
      rfl
  induction es with
  | nil => rfl
  | cons e rest ih => simp only [visitPaths, hOperations, ih]

/-! ### The order of the methods -/

def isVerb (e : Event) : Bool := (Method.ofName? e.name).isSome

def verb (path : String) (m : Method) : Event := ⟨m.name, .text path⟩

/-- The first events of the operations that a path may have, in the order of the methods. -/
def verbsOf (entry : Value × Value) : List Event :=
  (Method.all.filter fun m => (entry.2.get m.name).isMap).map (verb (entry.1.text?.getD ""))

/-- The methods that a run names are among some, in their order. -/
def Names {α : Type} (verbs : List Event) (x : Run α) : Prop :=
  (x.events.filter isVerb).Sublist verbs

namespace Names

variable {α β : Type} {x : Run α} {f : α → Run β} {first rest : List Event}

theorem of_events_eq_nil (h : x.events = []) : Names rest x := by
  rw [Names, h]
  exact List.nil_sublist _

theorem bind (hx : Names first x) (hf : ∀ a, x.outcome = .ok a → Names rest (f a)) :
    Names (first ++ rest) (x >>= f) := by
  cases h : x.outcome with
  | error e =>
    rw [Run.bind_of_error h]
    exact hx.trans (List.sublist_append_left first rest)
  | ok a =>
    rw [Run.bind_of_ok h, Names, List.filter_append]
    exact List.Sublist.append hx (hf a h)

/-- What comes after a step that names no method. -/
theorem after (hx : x.events.filter isVerb = []) (hf : ∀ a, x.outcome = .ok a → Names rest (f a)) :
    Names rest (x >>= f) := by
  have hNone : Names [] x := by rw [Names, hx]
  exact hNone.bind hf

theorem map (f : α → β) (hx : Names first x) : Names first (do return f (← x)) := by
  have hEnd (a : α) (_ : x.outcome = .ok a) : Names [] (pure (f a) : Run β) :=
    of_events_eq_nil rfl
  have hBoth := hx.bind hEnd
  rwa [List.append_nil] at hBoth

end Names

theorem filter_isVerb_eq_nil {events : List Event} (h : events.filter isMark = []) :
    events.filter isVerb = [] := by
  refine List.filter_eq_nil_iff.mpr fun e he hVerb => ?_
  have hMark : isMark e = true := by
    simp only [isMark, Bool.or_eq_true]
    exact .inr hVerb
  exact List.filter_eq_nil_iff.mp h e he hMark

theorem isVerb_verb (path : String) (m : Method) : isVerb (verb path m) = true := by
  have hName : (Method.ofName? m.name).isSome = true := by cases m <;> decide
  exact hName

theorem filter_isVerb_passage {m : Method} {op : Operation} {blocks : List Descriptor}
    (h : ∀ d ∈ blocks, IsBlock (blockFields d)) (target : Option Argument) :
    ((Passage.mk m.name op blocks target).events).filter isVerb = [verb op.path m] := by
  have hHeader : header m.name op = verb op.path m :: headerFields op := header_eq m.name op
  have hBlocks : (blocks.flatMap block).filter isVerb = [] := by
    have hFramed : blocks.flatMap block = (blocks.map blockFields).flatMap framed := by
      rw [List.flatMap_map]
      rfl
    rw [hFramed]
    refine filter_isVerb_eq_nil (filter_isMark_framed fun fields hFields => ?_)
    obtain ⟨d, hd, rfl⟩ := List.mem_map.mp hFields
    exact h d hd
  have hTarget : (target.map fun t => (⟨"to", t⟩ : Event)).toList.filter isVerb = [] := by
    cases target with
    | none => rfl
    | some t =>
      have hTo : isVerb ⟨"to", t⟩ = false := by
        have hName : (Method.ofName? "to").isSome = false := by decide
        exact hName
      simp [hTo]
  rw [Passage.events, hHeader, List.cons_append, List.filter_cons, if_pos (isVerb_verb _ m),
    List.filter_append, List.filter_append, hBlocks, hTarget,
    filter_isVerb_eq_nil (filter_isMark_headerFields op)]
  rfl

/-- A visit names its method once, or emits nothing. -/
theorem visitOf_names (g : Generator) (m : Method) (op : Operation) :
    Names [verb op.path m] (g.visitOf m op) := by
  cases h : g.filter.accept op.id? with
  | error e =>
    rw [visitOf, visit_of_failedFilter h]
    exact List.nil_sublist _
  | ok accepted =>
    cases accepted with
    | false =>
      rw [visitOf, visit_of_rejected h]
      exact List.nil_sublist _
    | true =>
      have hBlocks := isBlock_of_mem_blocks op
      have hEvents : (g.visitOf m op).events =
          (Passage.ofOperation g.destination m.name op).events := by
        rw [visitOf, visit_of_accepted h, emitOperation_events, methodName_name]
      rw [Names, hEvents, Passage.ofOperation]
      split
      · rw [filter_isVerb_passage fun d hd =>
          hBlocks _ (List.mem_append_left _ (List.mem_map_of_mem hd))]
      · rw [filter_isVerb_passage fun d hd => ?_]
        rcases List.mem_append.mp hd with hDeclared | hExtra
        · exact hBlocks _ (List.mem_append_left _ (List.mem_map_of_mem hDeclared))
        · exact hBlocks _ (List.mem_append_right _ (List.mem_map_of_mem hExtra))

theorem visitOperation_names (g : Generator) (m : Method) (op : Operation) :
    Names [verb op.path m] (g.visitOperation m op) := by
  have hVisit := visitOf_names g m op
  cases hOutcome : (g.visitOf m op).outcome with
  | ok emitted =>
    rw [visitOperation_of_ok hOutcome]
    exact hVisit
  | error e =>
    cases hGo : g.continueOnError with
    | false =>
      have hStopped : (g.visitOperation m op).events = (g.visitOf m op).events := by
        unfold visitOf at hOutcome ⊢
        simp only [visitOperation, hGo, Bool.false_eq_true, if_false]
        rw [Run.bind_of_error hOutcome]
      rwa [Names, hStopped]
    | true =>
      -- A failure that the run goes past takes its events with it.
      cases e with
      | refusal r =>
        rw [visitOperation_of_refusal hGo hOutcome]
        exact List.nil_sublist _
      | defect d =>
        rw [visitOperation_of_defect hGo hOutcome]
        exact List.nil_sublist _

theorem visitOperations_names (g : Generator) (path : String) (shared : List Value)
    (raws : List (Method × Value)) :
    Names ((raws.map Prod.fst).map (verb path)) (g.visitOperations path shared raws) := by
  induction raws with
  | nil => exact .of_events_eq_nil rfl
  | cons raw rest ih =>
    obtain ⟨m, raw⟩ := raw
    refine .after (x := Run.ofLogged _) rfl fun op hBuilt => ?_
    have hPath : op.path = path := (Listing.operation_id hBuilt).1
    have hFirst := visitOperation_names g m op
    rw [hPath] at hFirst
    exact hFirst.bind fun report _ => ih.map report.append

theorem map_fst_rawOperations (item : Value) :
    (Builder.rawOperations item).map Prod.fst =
      Method.all.filter fun m => (item.get m.name).isMap := by
  rw [Builder.rawOperations, List.map_filterMap, ← List.filterMap_eq_filter]
  refine List.filterMap_congr fun m _ => ?_
  simp only [Option.guard]
  split <;> rfl

theorem visitPaths_names (g : Generator) (es : List (Value × Value)) :
    Names (es.flatMap verbsOf) (g.visitPaths es) := by
  induction es with
  | nil => exact .of_events_eq_nil rfl
  | cons e rest ih =>
    obtain ⟨key, item⟩ := e
    refine .after (x := Run.ofExcept _) rfl fun path hPath => ?_
    have hText : key.text?.getD "" = path := by
      have hRead : key.textOrFail = .ok path := hPath
      unfold Value.textOrFail at hRead
      cases hText : key.text? with
      | none =>
        rw [hText] at hRead
        cases hRead
      | some text =>
        rw [hText] at hRead
        exact Except.ok.inj hRead
    have hFirst := visitOperations_names g path (item.get "parameters").items
      (Builder.rawOperations item)
    rw [map_fst_rawOperations, ← hText] at hFirst
    rw [← hText]
    exact hFirst.bind fun report _ => ih.map report.append

theorem generate_names (g : Generator) :
    Names ((Builder.paths g.document).flatMap verbsOf) g.generate := by
  have hSettings : (emitAll g.settingsEvents).events.filter isVerb = [] :=
    filter_isVerb_eq_nil (filter_isMark_settingsEvents g)
  refine .after hSettings fun _ _ => .after (x := Run.ofExcept _) rfl fun path _ => ?_
  have hRest : (Run.emit (restEvent path)).events.filter isVerb = [] := by
    cases path <;> rfl
  refine .after hRest fun _ _ => ?_
  have hEnd (report : Report) (_ : (g.visitPaths (Builder.paths g.document)).outcome = .ok report) :
      Names [] (Run.record .debug (summary report) >>= fun _ => (pure report : Run Report)) :=
    .of_events_eq_nil rfl
  have hPaths := (g.visitPaths_names (Builder.paths g.document)).bind hEnd
  rwa [List.append_nil] at hPaths

/-! ### Whole documents -/

/-- Alike documents are generated from alike: the same events, records and report, or the same failure,
whether or not the generator goes on after errors.  They are taken for the same generation, and within
a path the methods are named in their own order. -/
theorem generate_alike (g : Generator) {document : Value}
    (h : Alike g.version false (.object .document) g.document document) :
    generate { g with document } = g.generate ∧
      Document.version document = Document.version g.document ∧
      (g.generate.events.filter isVerb).Sublist
        ((Builder.paths g.document).flatMap verbsOf) := by
  refine ⟨?_, h.version_eq.symm, g.generate_names⟩
  have hPaths : visitPaths { g with document } (Builder.paths document) =
      g.visitPaths (Builder.paths g.document) := by
    rw [visitPaths_document, visitPaths_congr h.paths]
  rw [generate, generate, hPaths, ← basePath_congr h]

/-- A schema with a bound, and the same with a format before its type. -/
def boundedSchema : Value := .ofNamed [("type", .str "integer"), ("minimum", .int 1)]

def formattedSchema : Value := .ofNamed [("format", .str "int32"), ("type", .str "integer")]

def listingWith (limit : Value) : Value :=
  .ofNamed [("parameters", .list [limit]), ("operationId", .str "listPets")]

def addingFirst : Value :=
  .ofNamed
    [("openapi", .str "3.0.0"),
      ("info", .ofNamed [("title", .str "Pets")]),
      ("paths", .ofNamed
        [("/pets", .ofNamed
          [("post", .ofNamed [("operationId", .str "addPet"), ("deprecated", .bool true)]),
            ("get", listingWith
              (.ofNamed [("name", .str "limit"), ("in", .str "query"),
                ("schema", boundedSchema)]))])])]

/-- The same document with its entries in another order and other remarks. -/
def listingFirst : Value :=
  .ofNamed
    [("paths", .ofNamed
        [("/pets", .ofNamed
          [("get", listingWith
              (.ofNamed [("schema", formattedSchema), ("in", .str "query"),
                ("name", .str "limit")])),
            ("summary", .str "all of them"),
            ("post", .ofNamed [("operationId", .str "addPet")])])]),
      ("openapi", .str "3.0.0")]

theorem limit_alike :
    Alike .openApi false (.object .parameter)
      (.ofNamed [("name", .str "limit"), ("in", .str "query"), ("schema", boundedSchema)])
      (.ofNamed [("schema", formattedSchema), ("in", .str "query"), ("name", .str "limit")]) := by
  have hSchema : Alike .openApi false (.object .schema) boundedSchema formattedSchema :=
    .of_perm (.refl _) (by simp [Alike.isRead, Role.fields, Role.marks, Value.isOneOf])
  refine .of_fields (by simp [Role.marks, Value.lookup]) rfl ?_
  simp only [Role.fields, List.cons_append, List.nil_append, Bool.false_eq_true, if_false,
    List.forall_mem_cons]
  exact ⟨.same _ _, .same _ _, .same _ _, .same _ _, hSchema, .same _ _, .same _ _, by simp⟩

theorem listing_alike {limit limit' : Value}
    (h : Alike .openApi false (.object .parameter) limit limit') :
    Alike .openApi false (.object .operation) (listingWith limit) (listingWith limit') := by
  refine .of_fields (by simp [Role.marks]) rfl ?_
  simp only [Role.fields, List.cons_append, List.nil_append, List.forall_mem_cons]
  exact ⟨.same _ _, .same _ _, .item h (.same _ _), .same _ _, .same _ _, by simp⟩

theorem generate_alike_listingFirst :
    let first := ofDocument addingFirst .openApi
    let second := ofDocument listingFirst .openApi
    Alike .openApi false (.object .document) addingFirst listingFirst ∧
      second.generate = first.generate ∧
      (first.generate.events.filter isVerb).map (·.name) = ["get", "post"] := by
  intro first second
  have hPost : Alike .openApi false (.object .operation)
      (.ofNamed [("operationId", .str "addPet"), ("deprecated", .bool true)])
      (.ofNamed [("operationId", .str "addPet")]) :=
    .of_perm (.refl _) (by simp [Alike.isRead, Role.fields, Role.marks, Value.isOneOf])
  have hPaths : Alike .openApi false (.entries .pathItem) (addingFirst.get "paths")
      (listingFirst.get "paths") := by
    refine .entry ?_ (.same _ _)
    refine .of_fields (by simp [Role.marks]) rfl ?_
    simp only [Role.fields, Method.all, List.map_cons, List.map_nil, List.forall_mem_cons]
    exact ⟨.same _ _, listing_alike limit_alike, .same _ _, hPost, .same _ _, .same _ _,
      .same _ _, .same _ _, .same _ _, by simp⟩
  have hAlike : Alike .openApi false (.object .document) addingFirst listingFirst := by
    refine .of_fields (by simp [Role.marks, Value.lookup]) rfl ?_
    simp only [Role.fields, List.forall_mem_cons]
    exact ⟨hPaths, .same _ _, by simp⟩
  obtain ⟨hSame, -, -⟩ := generate_alike first hAlike
  exact ⟨hAlike, hSame, by decide +kernel⟩

end Generator

end RestRoutes
