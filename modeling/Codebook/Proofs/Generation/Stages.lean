import Mathlib.Data.Finset.Card
import Codebook.Proofs.Catalog.Contents
import Codebook.Proofs.FileSystem.ReadBack
import Codebook.Proofs.Generation.Rendering
import Codebook.Proofs.Json.Plain
import Codebook.Proofs.World.Congruence

/-!
# A run and its stages

A run from a catalog and a template to an output can be driven by hand: read the template, open the
catalog, render, and deliver, each in the world that the stage before has left, up to the first that
fails. `driven` spells this out. The run in one go comes to the same result and leaves the same
files and the same output; only the log has one event more, and no stage looks at the log.

The stages in front of the last one only read. So a run that fails there leaves everything as it
was, and a run that succeeds has its whole output where it was to go.
-/

namespace Codebook

/-- A program that may fail, on a world. -/
abbrev Run (α : Type) : Type := ExceptT Error (StateM World) α

namespace Run

variable {α β : Type}

/-- A step and what follows it, which goes on in the world that the step has left. -/
theorem run_bind (p : Run α) (next : α → Run β) (world : World) :
    (p >>= next).run world =
      match p.run world with
      | (.ok a, world) => (next a).run world
      | (.error e, world) => (.error e, world) := by
  have hstep : (p >>= next).run world =
      ExceptT.bindCont next (p.run world).1 (p.run world).2 := rfl
  rw [hstep]
  rcases p.run world with ⟨result, between⟩
  cases result with
  | ok a => rfl
  | error e => rfl

theorem run_bind_eq_ok_iff {p : Run α} {next : α → Run β} {world last : World} {b : β} :
    (p >>= next).run world = (.ok b, last) ↔
      ∃ a between, p.run world = (.ok a, between) ∧ (next a).run between = (.ok b, last) := by
  rw [run_bind]
  rcases p.run world with ⟨result, between⟩
  cases result with
  | ok a =>
    constructor
    · exact fun h => ⟨a, between, rfl, h⟩
    · rintro ⟨a', between', heq, h⟩
      cases heq
      exact h
  | error e =>
    constructor
    · exact fun h => nomatch h
    · rintro ⟨a, between', heq, -⟩
      exact nomatch heq

theorem run_lift_eq_ok_iff {p : StateM World α} {world last : World} {a : α} :
    (ExceptT.lift p : Run α).run world = (.ok a, last) ↔ p world = (a, last) := by
  have hlift : (ExceptT.lift p : Run α).run world = (.ok (p world).1, (p world).2) := rfl
  rw [hlift, Prod.ext_iff, Prod.ext_iff]
  exact and_congr_left fun _ => ⟨Except.ok.inj, congrArg Except.ok⟩

theorem run_orFail_eq_ok {ε : Type} {error : ε → Error} {result : Except ε α} {a : α}
    {world last : World} (h : (orFail error result : Run α).run world = (.ok a, last)) :
    result = .ok a ∧ last = world := by
  cases result with
  | ok value =>
    cases h
    exact ⟨rfl, rfl⟩
  | error e => exact nomatch h

theorem run_orFail {ε : Type} (error : ε → Error) (result : Except ε α) (world : World) :
    (orFail error result : Run α).run world = (result.mapError error, world) := by
  cases result with
  | ok a => rfl
  | error e => rfl

theorem run_readFile (path : Text) (world : World) :
    (Host.readFile path : Run (Except FileFault Bytes)).run world =
      (.ok (world.files.read path), world) := rfl

theorem run_fetch (url : Url) (world : World) :
    (Host.fetch url : Run (Option Response)).run world = (.ok (world.network url), world) := rfl

theorem run_report (event : Event) (world : World) :
    (Host.report event : Run Unit).run world = (.ok (), (World.note event world).2) := rfl

/-- An event in front of a program changes nothing but the log. -/
theorem rel_report_bind (event : Event) {p q : Run α}
    (h : (World.sameOutcome.exceptT Error).Rel p q) :
    (World.sameOutcome.exceptT Error).Rel (Host.report event >>= fun _ => p) q :=
  show (World.sameOutcome.exceptT Error).Rel (ExceptT.lift (Host.report event) >>= fun _ => p)
      (ExceptT.lift (pure ()) >>= fun _ => q) from
    (World.sameOutcome.exceptT Error).bind
      (World.sameOutcome.rel_lift (World.sameOutcome_report event)) fun _ => h

end Run

/-! ## Reading -/

/-- What a file was written with is read back as a template. -/
theorem run_templateAt_of_read {path output : Text} {world : World}
    (h : world.files.read path = .ok (Utf8.encode output)) :
    (templateAt path : Run Text).run world = (.ok output, world) := by
  unfold templateAt
  rw [Run.run_bind, Run.run_readFile, h]
  dsimp only
  rw [Run.run_bind, Run.run_orFail]
  dsimp only [Except.mapError]
  rw [Utf8.decode?_encode]
  rfl

/-- A template that was read is what its file holds, and reading it changes nothing. -/
theorem templateAt_eq_ok {path text : Text} {world last : World}
    (h : (templateAt path : Run Text).run world = (.ok text, last)) :
    world.files.read path = .ok (Utf8.encode text) ∧ last = world := by
  obtain ⟨result, between, hread, hrest⟩ := Run.run_bind_eq_ok_iff.1 h
  obtain ⟨content, between', hcontent, hdecode⟩ := Run.run_bind_eq_ok_iff.1 hrest
  obtain ⟨hresult, rfl⟩ := Run.run_orFail_eq_ok hcontent
  obtain ⟨hfile, rfl⟩ := Prod.mk.inj (Run.run_lift_eq_ok_iff.1 hread)
  split at hdecode
  · next decoded heq =>
    cases hdecode
    rw [Utf8.encode_of_decode? heq]
    exact ⟨hfile.trans hresult, rfl⟩
  · exact nomatch hdecode

/-- A catalog that was read is there, and the log may have an event more. -/
theorem run_catalogAt_of_parse {path : Text} {raw : Bytes} {catalog : Catalog} {world : World}
    (hread : world.files.read path = .ok raw) (hparse : Catalog.parse raw = .ok catalog) :
    let event := Event.stripped (raw.length - (Comment.strip raw).length)
    (catalogAt path : Run Catalog).run world = (.ok catalog, (World.note event world).2) := by
  unfold catalogAt catalogOfBytes
  rw [Run.run_bind, Run.run_readFile, hread]
  dsimp only
  rw [Run.run_bind, Run.run_orFail]
  dsimp only [Except.mapError]
  rw [Run.run_bind, Run.run_report]
  dsimp only
  rw [Run.run_orFail, hparse]
  rfl

/-! ## Driving the stages -/

/-- The stages in front of the last one: the template is read, the catalog opened, the template
rendered. -/
def prepared (source template : Text) (mode : Phrase.MapMode) (world : World) :
    Except Error (Catalog × Text) × World :=
  match (templateAt template : Run Text).run world with
  | (.error e, world) => (.error e, world)
  | (.ok text, world) =>
    match (catalogFrom source : Run Catalog).run world with
    | (.error e, world) => (.error e, world)
    | (.ok catalog, world) =>
      match (renderTemplate catalog mode text : Run Text).run world with
      | (.error e, world) => (.error e, world)
      | (.ok output, world) => (.ok (catalog, output), world)

/-- All stages: what was prepared is delivered. -/
def driven (source template : Text) (output? : Option Text) (mode : Phrase.MapMode)
    (world : World) : Except Error (Catalog × Text) × World :=
  match prepared source template mode world with
  | (.error e, world) => (.error e, world)
  | (.ok (catalog, output), world) =>
    match (deliver output? output : Run Unit).run world with
    | (.error e, world) => (.error e, world)
    | (.ok _, world) => (.ok (catalog, output), world)

/-- How much a catalog and an output are. -/
def Stats.of (catalog : Catalog) (output : Text) : Stats :=
  ⟨catalog.codes.toFinset.card, (Utf8.encode output).length⟩

theorem Stats.of_eq (catalog : Catalog) (output : Text) :
    Stats.of catalog output = ⟨catalog.size, (Utf8.encode output).length⟩ := by
  rw [of, List.toFinset_card_of_nodup catalog.nodup_codes, Catalog.codes, List.length_map]
  rfl

/-- The stages as one program, without the event that tells about the catalog. -/
def staged (source template : Text) (output? : Option Text) (mode : Phrase.MapMode) : Run Stats :=
  do
    let template ← templateAt template
    let catalog ← catalogFrom source
    let output ← renderTemplate catalog mode template
    deliver output? output
    return Stats.of catalog output

theorem run_staged (source template : Text) (output? : Option Text) (mode : Phrase.MapMode)
    (world : World) :
    (staged source template output? mode).run world =
      ((driven source template output? mode world).1.map fun (catalog, output) =>
        Stats.of catalog output, (driven source template output? mode world).2) := by
  simp only [staged, driven, prepared, Run.run_bind]
  -- the first stage that fails ends both runs with the same world
  rcases (templateAt template : Run Text).run world with ⟨_ | text, world⟩
  · rfl
  dsimp only
  rcases (catalogFrom source : Run Catalog).run world with ⟨_ | catalog, world⟩
  · rfl
  dsimp only
  rcases (renderTemplate catalog mode text : Run Text).run world with ⟨_ | output, world⟩
  · rfl
  dsimp only
  rcases (deliver output? output : Run Unit).run world with ⟨_ | _, world⟩
  · rfl
  · rfl

/-- The run in one go is the stages, but for the log. -/
theorem rel_generate_staged (source template : Text) (output? : Option Text)
    (mode : Phrase.MapMode) :
    (World.sameOutcome.exceptT Error).Rel (generate source template output? mode)
      (staged source template output? mode) := by
  have hreads := World.sameOutcome_reads
  refine (World.sameOutcome.exceptT Error).bind (Congruence.rel_templateAt hreads template)
    fun text => (World.sameOutcome.exceptT Error).bind (Congruence.rel_catalogFrom hreads source)
      fun catalog => ?_
  -- the event of the whole run stands against nothing
  refine Run.rel_report_bind _ ?_
  refine (World.sameOutcome.exceptT Error).bind
    (Congruence.rel_renderTemplate hreads catalog mode text) fun output => ?_
  refine (World.sameOutcome.exceptT Error).bind
    (Congruence.rel_deliver World.sameOutcome_writes output? output) fun _ => ?_
  rw [Stats.of_eq]
  exact (World.sameOutcome.exceptT Error).pure _

/-! ## What the stages leave behind -/

/-- What reading and rendering keep, the stages in front of the last one keep as well. -/
theorem view_prepared {β : Type} {view : World → β} (hreads : (World.keeping view).Reads)
    (source template : Text) (mode : Phrase.MapMode) (world : World) :
    view (prepared source template mode world).2 = view world := by
  -- none of the three stages changes what is looked at
  have htemplate := (Congruence.rel_templateAt hreads template).2 world
  unfold prepared
  generalize (templateAt template : Run Text).run world = first at htemplate ⊢
  rcases first with ⟨_ | text, world₁⟩
  · exact htemplate
  have hcatalog := (Congruence.rel_catalogFrom hreads source).2 world₁
  dsimp only
  generalize (catalogFrom source : Run Catalog).run world₁ = second at hcatalog ⊢
  rcases second with ⟨_ | catalog, world₂⟩
  · exact hcatalog.trans htemplate
  have hrender := (Congruence.rel_renderTemplate hreads catalog mode text).2 world₂
  dsimp only
  generalize (renderTemplate catalog mode text : Run Text).run world₂ = third at hrender ⊢
  rcases third with ⟨_ | output, world₃⟩
  · exact hrender.trans (hcatalog.trans htemplate)
  · exact hrender.trans (hcatalog.trans htemplate)

/-- **The stages in front of the last one leave everything as it was.** -/
theorem outside_prepared (source template : Text) (mode : Phrase.MapMode) (world : World) :
    (prepared source template mode world).2.outside = world.outside :=
  view_prepared World.keeping_outside_reads source template mode world

/-- The output is where it was to go, and nothing was printed that was not to be. -/
def Delivered (output? : Option Text) (output : Text) (before after : World) : Prop :=
  match output? with
  | none => after.files = before.files ∧ after.printed = before.printed ++ Utf8.encode output
  | some path =>
    after.files.read path = .ok (Utf8.encode output) ∧ after.printed = before.printed

theorem delivered_of_write {content : Bytes} {world last : World}
    (h : World.write content world = (.ok (), last)) :
    last.files = world.files ∧ last.printed = world.printed ++ content := by
  unfold World.write at h
  split at h
  · cases h
    exact ⟨rfl, rfl⟩
  · exact nomatch h

theorem changeFiles_eq_ok {change : FileSystem → Except FileFault FileSystem} {world last : World}
    (h : World.changeFiles change world = (.ok (), last)) :
    change world.files = .ok last.files ∧ last.printed = world.printed := by
  unfold World.changeFiles at h
  split at h
  · exact nomatch h
  · next hchange =>
    cases h
    exact ⟨hchange, rfl⟩

/-- **What is delivered arrives whole.** -/
theorem delivered_of_deliver {output? : Option Text} {output : Text} {world last : World}
    (h : (deliver output? output : Run Unit).run world = (.ok (), last)) :
    Delivered output? output world last := by
  cases output? with
  | none =>
    obtain ⟨result, between, hprint, hresult⟩ := Run.run_bind_eq_ok_iff.1 h
    obtain ⟨rfl, rfl⟩ := Run.run_orFail_eq_ok hresult
    exact delivered_of_write (Run.run_lift_eq_ok_iff.1 hprint)
  -- the directories are created, the file is written, and a line is told
  | some path =>
    obtain ⟨_, above, hparents, h⟩ := Run.run_bind_eq_ok_iff.1 h
    obtain ⟨result, between, hwrite, h⟩ := Run.run_bind_eq_ok_iff.1 h
    obtain ⟨_, between', hresult, hreport⟩ := Run.run_bind_eq_ok_iff.1 h
    obtain ⟨rfl, rfl⟩ := Run.run_orFail_eq_ok hresult
    -- neither the directories nor the line touch what was printed
    have hprinted : above.printed = world.printed := by
      have hkeeps := (Congruence.rel_createParents World.keeping_printed_creates path).2 world
      exact (congrArg (fun out => out.2.printed) hparents).symm.trans hkeeps
    obtain ⟨hchange, hbetween⟩ := changeFiles_eq_ok (Run.run_lift_eq_ok_iff.1 hwrite)
    have hnote := World.outside_note (.wrote path (Utf8.encode output).length) between'
    have hlast : last.outside = between'.outside :=
      (congrArg (fun out => out.2.outside) hreport).symm.trans hnote
    obtain ⟨hfiles, hlastPrinted⟩ := Prod.mk.inj hlast
    constructor
    · rw [hfiles]
      exact FileSystem.read_write hchange
    · rw [hlastPrinted, hbetween, hprinted]

/-! ## The run in one go -/

theorem driven_of_prepared_error {source template : Text} {mode : Phrase.MapMode}
    {world stopped : World} {e : Error}
    (h : prepared source template mode world = (.error e, stopped)) (output? : Option Text) :
    driven source template output? mode world = (.error e, stopped) := by
  unfold driven
  rw [h]

theorem Delivered.of_outside {output? : Option Text} {output : Text}
    {before before' after after' : World} (h : Delivered output? output before after)
    (hbefore : before.outside = before'.outside) (hafter : after.outside = after'.outside) :
    Delivered output? output before' after' := by
  obtain ⟨hfiles, hprinted⟩ := Prod.mk.inj hbefore
  obtain ⟨hfiles', hprinted'⟩ := Prod.mk.inj hafter
  cases output? with
  | none => exact ⟨hfiles' ▸ hfiles ▸ h.1, hprinted' ▸ hprinted ▸ h.2⟩
  | some path => exact ⟨hfiles' ▸ h.1, hprinted' ▸ hprinted ▸ h.2⟩

theorem delivered_of_driven {source template : Text} {output? : Option Text}
    {mode : Phrase.MapMode} {world : World} {catalog : Catalog} {output : Text}
    (h : (driven source template output? mode world).1 = .ok (catalog, output)) :
    Delivered output? output world (driven source template output? mode world).2 := by
  -- what comes before the delivery leaves files and output alone
  have houtside := outside_prepared source template mode world
  unfold driven at h ⊢
  generalize prepared source template mode world = stage at h houtside ⊢
  rcases stage with ⟨_ | ⟨catalog', output'⟩, between⟩
  · exact nomatch h
  dsimp only at h houtside ⊢
  generalize hdeliver : (deliver output? output' : Run Unit).run between = stop at h ⊢
  rcases stop with ⟨_ | _, last⟩
  · exact nomatch h
  · cases h
    exact (delivered_of_deliver hdeliver).of_outside houtside rfl

/-- **A run in one go is its stages driven by hand.** It has the same result, and leaves the same
files and the same output. The figures of a run that succeeds are those of the catalog and of the
output that the stages came by, and this output is what now stands where it was to go. A run that
fails in front of the last stage leaves everything as it was. -/
theorem generate_eq_driven (source template : Text) (output? : Option Text)
    (mode : Phrase.MapMode) (world : World) :
    let run := (generate source template output? mode : Run Stats).run world
    let byHand := driven source template output? mode world
    run.1 = (byHand.1.map fun (catalog, output) => Stats.of catalog output) ∧
      run.2.outside = byHand.2.outside ∧
      (∀ catalog output, byHand.1 = .ok (catalog, output) →
        Delivered output? output world run.2) ∧
      ∀ e, (prepared source template mode world).1 = .error e →
        run.1 = .error e ∧ run.2.outside = world.outside := by
  intro run byHand
  -- the run is the stages with events between them, which nothing reads
  obtain ⟨hresult, hworld⟩ := rel_generate_staged source template output? mode world world (.refl _)
  have hstaged := run_staged source template output? mode world
  have hrun : run.1 = (byHand.1.map fun (catalog, output) => Stats.of catalog output) :=
    hresult.trans (congrArg Prod.fst hstaged)
  have hlast : run.2.outside = byHand.2.outside :=
    Prod.ext (hworld.files.trans (congrArg (·.2.files) hstaged))
      (hworld.printed.trans (congrArg (·.2.printed) hstaged))
  refine ⟨hrun, hlast, fun catalog output hdriven => ?_, fun e herror => ?_⟩
  · exact (delivered_of_driven hdriven).of_outside rfl hlast.symm
  · have hby : byHand = (.error e, (prepared source template mode world).2) :=
      driven_of_prepared_error (Prod.ext herror rfl) output?
    rw [hby] at hrun hlast
    exact ⟨hrun, hlast.trans (outside_prepared source template mode world)⟩

theorem catalogFrom_of_path {source : Text} (h : Scheme.ofSource? source = none) :
    (catalogFrom source : Run Catalog) = catalogAt source := by
  unfold catalogFrom
  rw [h]

/-- A catalog of no codes, and a template of one letter. -/
def letterFiles : FileSystem :=
  (FileSystem.empty.put .root "c".toList (.file [0x7B, 0x7D]) (by decide)).put .root "t".toList
    (.file [0x78]) (by decide)

/-- The output goes over the template; and without the catalog the template stays. -/
theorem generate_eq_driven_letter :
    (driven "c".toList "t".toList (some "t".toList) .legacy (.ofFiles letterFiles)).1 =
        .ok (.ofMembers [], ['x']) ∧
      Delivered (some "t".toList) ['x'] (.ofFiles letterFiles)
        ((generate "c".toList "t".toList (some "t".toList) .legacy : Run Stats).run
          (.ofFiles letterFiles)).2 ∧
      (prepared "d".toList "t".toList .legacy (.ofFiles letterFiles)).1 =
        .error (.read "d".toList .notFound) ∧
      ((generate "d".toList "t".toList (some "t".toList) .legacy : Run Stats).run
        (.ofFiles letterFiles)).2.outside = (World.ofFiles letterFiles).outside := by
  have htemplate : (templateAt "t".toList : Run Text).run (.ofFiles letterFiles) =
      (.ok ['x'], .ofFiles letterFiles) := run_templateAt_of_read rfl
  have hcatalog : (catalogFrom "c".toList : Run Catalog).run (.ofFiles letterFiles) =
      (.ok (.ofMembers []), .ofFiles letterFiles) := by
    rw [catalogFrom_of_path (by decide)]
    exact run_catalogAt_of_parse rfl Catalog.parse_braces
  have hrender : (renderTemplate (.ofMembers []) .legacy ['x'] : Run Text).run
      (.ofFiles letterFiles) = (.ok ['x'], .ofFiles letterFiles) := by
    rw [renderTemplate_of_ok (Template.render_of_no_marker rfl _)]
    rfl
  have hdeliver : (deliver (some "t".toList) ['x'] : Run Unit).run (.ofFiles letterFiles) =
      (.ok (), .ofFiles letterFiles) := rfl
  -- there is no catalog at `d`
  have hmissing : (catalogFrom "d".toList : Run Catalog).run (.ofFiles letterFiles) =
      (.error (.read "d".toList .notFound), .ofFiles letterFiles) := by
    rw [catalogFrom_of_path (by decide)]
    rfl
  have hdriven : (driven "c".toList "t".toList (some "t".toList) .legacy (.ofFiles letterFiles)).1 =
      .ok (.ofMembers [], ['x']) := by
    simp only [driven, prepared, htemplate, hcatalog, hrender, hdeliver]
  have hprepared : (prepared "d".toList "t".toList .legacy (.ofFiles letterFiles)).1 =
      .error (.read "d".toList .notFound) := by
    simp only [prepared, htemplate, hmissing]
  have hgo := generate_eq_driven "c".toList "t".toList (some "t".toList) .legacy
    (.ofFiles letterFiles)
  have hstop := generate_eq_driven "d".toList "t".toList (some "t".toList) .legacy
    (.ofFiles letterFiles)
  exact ⟨hdriven, hgo.2.2.1 _ _ hdriven, hprepared, (hstop.2.2.2 _ hprepared).2⟩

end Codebook
