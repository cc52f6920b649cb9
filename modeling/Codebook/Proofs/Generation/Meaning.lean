import Codebook.Proofs.Catalog.Enumeration
import Codebook.Proofs.Catalog.Reading
import Codebook.Proofs.Source.Outcome

/-!
# What a document means to a run

Two documents mean the same if they name the same codes and describe each in the same way last. How
they spell it does not matter: in which order their members stand, how the codes and descriptions
are written, what was said of a code before, which comments there are. Both are read as one catalog,
whatever the order in which a table of their members enumerates them.

A run looks at the bytes of its source only to read that catalog. `finish` is what remains of a run
once template and catalog have been read, and it is the same program for both documents; the log
still tells them apart, as it tells how long the comments were, but no stage reads the log.
-/

namespace Codebook

/-! ## Bytes at a source -/

/-- The bytes that a source has in a world: those of a file, or of the answer to a request. -/
def World.Holds (world : World) (source : Text) (raw : Bytes) : Prop :=
  match Scheme.ofSource? source with
  | none => world.files.read source = .ok raw
  | some scheme => ∃ url response, Url.parse scheme source = some url ∧
      world.network url = some response ∧ response.isSuccess = true ∧ response.body = raw

theorem World.SameButLog.holds {a b : World} (h : a.SameButLog b) {source : Text} {raw : Bytes}
    (hholds : a.Holds source raw) : b.Holds source raw := by
  unfold World.Holds at hholds ⊢
  rwa [← h.files, ← h.network]

/-- **Whatever a source is, it is read as the catalog that its bytes write.** -/
theorem run_catalogFrom_of_holds {world : World} {source : Text} {raw : Bytes}
    (h : world.Holds source raw) :
    ((catalogFrom source : Run Catalog).run world).1 = (Catalog.parse raw).mapError .parse := by
  unfold World.Holds at h
  split at h
  · next hsource => exact run_catalogFrom_of_read hsource h
  · next scheme hsource =>
    obtain ⟨url, response, hurl, hresponse, hsuccess, rfl⟩ := h
    rw [run_catalogFrom_of_answer hsource hurl hresponse, if_pos hsuccess]

/-! ## What remains of a run -/

/-- What a run does once it has read a template and a catalog. -/
def finish (catalog : Catalog) (template : Text) (output? : Option Text) (mode : Phrase.MapMode) :
    Run Stats := do
  let output ← renderTemplate catalog mode template
  deliver output? output
  return Stats.of catalog output

/-- **A run comes to what its rest comes to in the same world.** -/
theorem generate_eq_finish {world : World} {source template text : Text} {catalog : Catalog}
    (htemplate : ((templateAt template : Run Text).run world).1 = .ok text)
    (hcatalog : ∀ world', world.SameButLog world' →
      ((catalogFrom source : Run Catalog).run world').1 = .ok catalog)
    (output? : Option Text) (mode : Phrase.MapMode) :
    let run := (generate source template output? mode : Run Stats).run world
    let rest := (finish catalog text output? mode).run world
    run.1 = rest.1 ∧ run.2.SameButLog rest.2 := by
  have hreads := World.sameOutcome_reads
  -- `generate` and its stages have the same outcome, so the event in between need not be followed
  obtain ⟨hresult, hworld⟩ := rel_generate_staged source template output? mode world world (.refl _)
  have hrest : (World.sameOutcome.exceptT Error).Rel (finish catalog text output? mode)
      (finish catalog text output? mode) :=
    (World.sameOutcome.exceptT Error).bind (Congruence.rel_renderTemplate hreads catalog mode text)
      fun output => (World.sameOutcome.exceptT Error).bind
        (Congruence.rel_deliver World.sameOutcome_writes output? output)
        fun _ => (World.sameOutcome.exceptT Error).pure _
  obtain ⟨first, hfirst, htext⟩ : ∃ first, first.SameButLog world ∧
      (templateAt template : Run Text).run world = (.ok text, first) :=
    ⟨_, .of_unlogged ((Congruence.rel_templateAt World.keeping_unlogged_reads template).2 world),
      Prod.ext htemplate rfl⟩
  obtain ⟨second, hsecond, hread⟩ : ∃ second, second.SameButLog first ∧
      (catalogFrom source : Run Catalog).run first = (.ok catalog, second) :=
    ⟨_, .of_unlogged ((Congruence.rel_catalogFrom World.keeping_unlogged_reads source).2 first),
      Prod.ext (hcatalog first hfirst.symm) rfl⟩
  have hstaged : (staged source template output? mode).run world =
      (finish catalog text output? mode).run second := by
    unfold staged
    rw [Run.run_bind, htext]
    dsimp only
    rw [Run.run_bind, hread]
    rfl
  obtain ⟨hsame, hlast⟩ := hrest second world (hsecond.trans hfirst)
  rw [← hstaged] at hsame hlast
  exact ⟨hresult.trans hsame, hworld.trans hlast⟩

/-- A run without its template stops there, wherever its catalog is. -/
theorem generate_of_no_template {world : World} {template : Text} {e : Error}
    (h : ((templateAt template : Run Text).run world).1 = .error e) (source : Text)
    (output? : Option Text) (mode : Phrase.MapMode) :
    (generate source template output? mode : Run Stats).run world =
      (.error e, ((templateAt template : Run Text).run world).2) := by
  have hrun : (templateAt template : Run Text).run world = (.error e, _) := Prod.ext h rfl
  unfold generate
  rw [Run.run_bind, hrun]

theorem render_of_run {catalog : Catalog} {mode : Phrase.MapMode} {template output : Text}
    {world last : World}
    (h : (renderTemplate catalog mode template : Run Text).run world = (.ok output, last)) :
    Template.render ⟨catalog, mode⟩ template = .ok output := by
  obtain ⟨statements, first, hparse, h⟩ := Run.run_bind_eq_ok_iff.1 h
  obtain ⟨hparse, -⟩ := Run.run_orFail_eq_ok hparse
  obtain ⟨_, second, -, h⟩ := Run.run_bind_eq_ok_iff.1 h
  unfold Template.render
  rw [hparse]
  exact (Run.run_orFail_eq_ok h).1

/-- The figures are those of the catalog and of what the template gives for it. -/
theorem stats_of_finish {catalog : Catalog} {text : Text} {output? : Option Text}
    {mode : Phrase.MapMode} {world : World} {stats : Stats}
    (h : ((finish catalog text output? mode).run world).1 = .ok stats) :
    ∃ output, Template.render ⟨catalog, mode⟩ text = .ok output ∧
      stats = Stats.of catalog output := by
  have hrun : (finish catalog text output? mode).run world = (.ok stats, _) := Prod.ext h rfl
  obtain ⟨output, first, hrender, hrun⟩ := Run.run_bind_eq_ok_iff.1 hrun
  obtain ⟨_, second, -, hrun⟩ := Run.run_bind_eq_ok_iff.1 hrun
  cases hrun
  exact ⟨output, render_of_run hrender, rfl⟩

/--
**What is rendered depends on the meaning of a document only.**

For two documents that name the same codes and describe each in the same way last, every template
gives the same text or the same error, in whatever order tables of their members enumerate them. In
one world a run from the one document has the result and leaves the files and the output of a run
from the other; and in any two worlds runs with the same template that succeed report the same
figures.
-/
theorem render_of_same_meaning {raw raw' : Bytes} {catalog catalog' : Catalog}
    (hraw : Catalog.parse raw = .ok catalog) (hraw' : Catalog.parse raw' = .ok catalog')
    {members members' : List (Code × Text)} (hmembers : Json.Document (Comment.strip raw) members)
    (hmembers' : Json.Document (Comment.strip raw') members')
    (hcodes : ∀ code, code ∈ members.map Prod.fst ↔ code ∈ members'.map Prod.fst)
    (hlast : ∀ code,
      Catalog.lastDescription members code = Catalog.lastDescription members' code)
    (mode : Phrase.MapMode) :
    (∀ template, (renderTemplate catalog mode template : Run Text) =
      renderTemplate catalog' mode template) ∧
    (∀ table table' : Table, table.Holds members → table'.Holds members' →
      table.codes = catalog.codes ∧ table'.codes = catalog.codes ∧
      table.size = catalog.size ∧ table'.size = catalog.size ∧
      ∀ template, (renderTemplate table.catalog mode template : Run Text) =
        renderTemplate table'.catalog mode template) ∧
    (∀ (world : World) (source source' template : Text) (output? : Option Text),
      world.Holds source raw → world.Holds source' raw' →
      let run := (generate source template output? mode : Run Stats).run world
      let run' := (generate source' template output? mode : Run Stats).run world
      run.1 = run'.1 ∧ run.2.outside = run'.2.outside) ∧
    ∀ (world world' : World) (source source' template template' text : Text)
      (output? output?' : Option Text), world.Holds source raw → world'.Holds source' raw' →
      ((templateAt template : Run Text).run world).1 = .ok text →
      ((templateAt template' : Run Text).run world').1 = .ok text →
      ∀ stats stats',
        ((generate source template output? mode : Run Stats).run world).1 = .ok stats →
        ((generate source' template' output?' mode : Run Stats).run world').1 = .ok stats' →
        stats = stats' := by
  have hparse := Catalog.parse_of_document hmembers
  have hparse' := Catalog.parse_of_document hmembers'
  obtain rfl : catalog = .ofMembers members := Except.ok.inj (hraw.symm.trans hparse)
  obtain rfl : catalog' = .ofMembers members' := Except.ok.inj (hraw'.symm.trans hparse')
  have hone : Catalog.ofMembers members = .ofMembers members' :=
    Catalog.ofMembers_congr hcodes hlast
  -- a source that has one of the documents is read as the one catalog
  have hread {world : World} {source : Text} (h : world.Holds source raw) :
      ∀ world', world.SameButLog world' →
        ((catalogFrom source : Run Catalog).run world').1 = .ok (.ofMembers members) := by
    intro world' hworld
    rw [run_catalogFrom_of_holds (hworld.holds h), hparse]
    rfl
  have hread' {world : World} {source : Text} (h : world.Holds source raw') :
      ∀ world', world.SameButLog world' →
        ((catalogFrom source : Run Catalog).run world').1 = .ok (.ofMembers members) := by
    intro world' hworld
    rw [run_catalogFrom_of_holds (hworld.holds h), hparse', hone]
    rfl
  refine ⟨fun template => by rw [hone], fun table table' htable htable' => ?_, ?_, ?_⟩
  · rw [← table.codes_catalog, ← table'.codes_catalog, ← table.size_catalog,
      ← table'.size_catalog, htable.catalog_eq, htable'.catalog_eq, hone]
    exact ⟨rfl, rfl, rfl, rfl, fun _ => rfl⟩
  · intro world source source' template output? hholds hholds' run run'
    cases htemplate : ((templateAt template : Run Text).run world).1 with
    | error e =>
      have hstop := generate_of_no_template htemplate source output? mode
      have hstop' := generate_of_no_template htemplate source' output? mode
      exact ⟨congrArg Prod.fst (hstop.trans hstop'.symm),
        congrArg (fun out => out.2.outside) (hstop.trans hstop'.symm)⟩
    | ok text =>
      obtain ⟨hresult, hworld⟩ := generate_eq_finish htemplate (hread hholds) output? mode
      obtain ⟨hresult', hworld'⟩ := generate_eq_finish htemplate (hread' hholds') output? mode
      exact ⟨hresult.trans hresult'.symm,
        Prod.ext (hworld.files.trans hworld'.files.symm)
          (hworld.printed.trans hworld'.printed.symm)⟩
  · intro world world' source source' template template' text output? output?' hholds hholds'
      htemplate htemplate' stats stats' hstats hstats'
    rw [(generate_eq_finish htemplate (hread hholds) output? mode).1] at hstats
    rw [(generate_eq_finish htemplate' (hread' hholds') output?' mode).1] at hstats'
    obtain ⟨output, hrender, rfl⟩ := stats_of_finish hstats
    obtain ⟨output', hrender', rfl⟩ := stats_of_finish hstats'
    rw [Except.ok.inj (hrender.symm.trans hrender')]

/-- A document that says one thing of one code. -/
def plainDocument : Bytes := Utf8.encode "\x7b\"1\":\"a\"\x7d".toList

/-- The same, with a comment, a member that is overridden, a sign and an escape. -/
def windingDocument : Bytes :=
  Utf8.encode "/**/ \x7b \"01\": \"b\", \"+1\":\"\\u0061\"\x7d".toList

/-- What both documents say. -/
def oneCode : Catalog := .ofMembers [(⟨1, by decide, by decide⟩, ['a'])]

theorem parse_eq_oneCode {raw : Bytes}
    (h : (Catalog.parse raw).toOption.map (·.entries) = some oneCode.entries) :
    Catalog.parse raw = .ok oneCode := by
  obtain ⟨⟨entries, hascending⟩, hparse, hentries⟩ := Option.map_eq_some_iff.1 h
  obtain rfl : entries = oneCode.entries := hentries
  exact Except.toOption_eq_some_iff.1 hparse

theorem exists_members_of_parse {raw : Bytes} {catalog : Catalog}
    (h : Catalog.parse raw = .ok catalog) :
    ∃ members, Json.Document (Comment.strip raw) members ∧ catalog = .ofMembers members :=
  Json.document_eq_ok_iff.1 (Catalog.parse_eq_ok_iff_document.1 h)

/-- The two documents in files beside a template. -/
def documentFiles : FileSystem :=
  ((FileSystem.empty.put .root "p".toList (.file plainDocument) (by decide)).put .root "w".toList
    (.file windingDocument) (by decide)).put .root "t".toList (.file [0x78]) (by decide)

/-- A run from the one document over its template, and a run from the other to a new file. -/
theorem render_of_same_meaning_winding :
    ∃ members members', Catalog.parse plainDocument = .ok oneCode ∧
      Catalog.parse windingDocument = .ok oneCode ∧
      Json.Document (Comment.strip plainDocument) members ∧
      Json.Document (Comment.strip windingDocument) members' ∧
      (∀ code, code ∈ members.map Prod.fst ↔ code ∈ members'.map Prod.fst) ∧
      (∀ code, Catalog.lastDescription members code = Catalog.lastDescription members' code) ∧
      let world := World.ofFiles documentFiles
      let run (source output : Text) : Except Error Stats × World :=
        (generate source "t".toList (some output) .legacy : Run Stats).run world
      world.Holds "p".toList plainDocument ∧ world.Holds "w".toList windingDocument ∧
        (run "p".toList "t".toList).1 = .ok ⟨1, 1⟩ ∧ (run "w".toList "t".toList).1 = .ok ⟨1, 1⟩ ∧
        (run "w".toList "t".toList).2.outside = (run "p".toList "t".toList).2.outside ∧
        ∀ stats, (run "w".toList "n/o".toList).1 = .ok stats → stats = ⟨1, 1⟩ := by
  have hplain : Catalog.parse plainDocument = .ok oneCode := parse_eq_oneCode (by decide +kernel)
  have hwinding : Catalog.parse windingDocument = .ok oneCode :=
    parse_eq_oneCode (by decide +kernel)
  obtain ⟨members, hmembers, hcatalog⟩ := exists_members_of_parse hplain
  obtain ⟨members', hmembers', hcatalog'⟩ := exists_members_of_parse hwinding
  -- both documents say the same, since they are read as the same catalog
  have hcodes (code : Code) : code ∈ members.map Prod.fst ↔ code ∈ members'.map Prod.fst := by
    rw [← Catalog.mem_codes_ofMembers, ← Catalog.mem_codes_ofMembers, ← hcatalog, ← hcatalog']
  have hlast (code : Code) :
      Catalog.lastDescription members code = Catalog.lastDescription members' code := by
    rw [← Catalog.get_ofMembers, ← Catalog.get_ofMembers, ← hcatalog, ← hcatalog']
  have hholds : (World.ofFiles documentFiles).Holds "p".toList plainDocument :=
    show documentFiles.read "p".toList = .ok plainDocument from rfl
  have hholds' : (World.ofFiles documentFiles).Holds "w".toList windingDocument :=
    show documentFiles.read "w".toList = .ok windingDocument from rfl
  obtain ⟨-, -, hrun, hstats⟩ := render_of_same_meaning hplain hwinding hmembers hmembers' hcodes
    hlast .legacy
  have htemplate : ((templateAt "t".toList : Run Text).run (.ofFiles documentFiles)).1 =
      .ok ['x'] := run_templateAt_eq_ok_iff.2 rfl
  have hread (world' : World) (hworld : (World.ofFiles documentFiles).SameButLog world') :
      ((catalogFrom "p".toList : Run Catalog).run world').1 = .ok oneCode := by
    rw [run_catalogFrom_of_holds (hworld.holds hholds), hplain]
    rfl
  -- the run on the first document is carried out; the second one follows from the theorem
  have hfinish : ((finish oneCode ['x'] (some "t".toList) .legacy).run (.ofFiles documentFiles)).1 =
      .ok ⟨1, 1⟩ := by
    unfold finish
    rw [renderTemplate_of_ok (Template.render_of_no_marker rfl _)]
    rfl
  have hresult := (generate_eq_finish htemplate hread (some "t".toList) .legacy).1.trans hfinish
  obtain ⟨hsame, houtside⟩ := hrun _ _ _ "t".toList (some "t".toList) hholds hholds'
  exact ⟨members, members', hplain, hwinding, hmembers, hmembers', hcodes, hlast, hholds, hholds',
    hresult, hsame.symm.trans hresult, houtside.symm, fun stats hok =>
      (hstats _ _ _ _ _ _ _ _ _ hholds hholds' htemplate htemplate _ _ hresult hok).symm⟩

end Codebook
