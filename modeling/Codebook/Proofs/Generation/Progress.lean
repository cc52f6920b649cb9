import Codebook.Proofs.Generation.Delivery
import Codebook.Proofs.World.Telling

/-!
# What a run tells about its progress

The stages of a run tell, in this order: where a remote catalog comes from, how much was taken out
of the catalog as comments, how many codes it has, for how many codes a template is rendered, and
how many bytes were written to a file. A run that succeeds has told all of it, and the numbers are
those of the codes that there are and of the bytes that arrived.
-/

namespace Codebook

open World (Told)

/-- What is told in front of a catalog, if it comes from elsewhere. -/
def announced (source : Text) : List Event :=
  if (Scheme.ofSource? source).isSome then [.downloading source] else []

/-- What is told behind an output that goes to a file. -/
def reported (output? : Option Text) (bytes : Nat) : List Event :=
  output?.toList.map fun path => .wrote path bytes

/-- What is told by a run that succeeds. -/
def progress (source : Text) (output? : Option Text) (removed : Nat) (stats : Stats) :
    List Event :=
  announced source ++ [.stripped removed, .loaded stats.codes, .rendering stats.codes] ++
    reported output? stats.bytes

/-! ## The stages -/

section Stages

variable {world last : World} {catalog : Catalog}

theorem told_of_report {event : Event}
    (h : (Host.report event : Run Unit).run world = (.ok (), last)) : Told [event] world last := by
  obtain rfl : _ = last := congrArg Prod.snd h
  exact World.told_note event world

theorem told_of_catalogOfBytes {raw : Bytes}
    (h : (catalogOfBytes raw : Run Catalog).run world = (.ok catalog, last)) :
    ∃ removed, Told [.stripped removed] world last := by
  obtain ⟨_, between, hreport, hparse⟩ := Run.run_bind_eq_ok_iff.1 h
  obtain ⟨-, rfl⟩ := Run.run_orFail_eq_ok hparse
  exact ⟨_, told_of_report hreport⟩

theorem told_of_catalogAt {path : Text}
    (h : (catalogAt path : Run Catalog).run world = (.ok catalog, last)) :
    ∃ removed, Told [.stripped removed] world last := by
  obtain ⟨result, between, hread, hrest⟩ := Run.run_bind_eq_ok_iff.1 h
  obtain ⟨content, between', hcontent, hbytes⟩ := Run.run_bind_eq_ok_iff.1 hrest
  obtain ⟨-, rfl⟩ := Run.run_orFail_eq_ok hcontent
  obtain ⟨-, rfl⟩ := Prod.mk.inj (Run.run_lift_eq_ok_iff.1 hread)
  exact told_of_catalogOfBytes hbytes

theorem told_of_catalogAtUrl {scheme : Scheme} {source : Text}
    (h : (catalogAtUrl scheme source : Run Catalog).run world = (.ok catalog, last)) :
    ∃ removed, Told [.downloading source, .stripped removed] world last := by
  obtain ⟨_, between, hreport, hrest⟩ := Run.run_bind_eq_ok_iff.1 h
  split at hrest
  · exact nomatch hrest
  · obtain ⟨response?, between', hfetch, hrest⟩ := Run.run_bind_eq_ok_iff.1 hrest
    obtain ⟨-, rfl⟩ := Prod.mk.inj (Run.run_lift_eq_ok_iff.1 hfetch)
    split at hrest
    · exact nomatch hrest
    · split at hrest
      · obtain ⟨removed, htold⟩ := told_of_catalogOfBytes hrest
        exact ⟨removed, (told_of_report hreport).trans htold⟩
      · exact nomatch hrest

theorem told_of_catalogFrom {source : Text}
    (h : (catalogFrom source : Run Catalog).run world = (.ok catalog, last)) :
    ∃ removed, Told (announced source ++ [.stripped removed]) world last := by
  unfold catalogFrom at h
  unfold announced
  split at h
  · next scheme hscheme =>
    rw [hscheme]
    exact told_of_catalogAtUrl h
  · next hpath =>
    rw [hpath]
    exact told_of_catalogAt h

theorem told_of_renderTemplate {mode : Phrase.MapMode} {template output : Text}
    (h : (renderTemplate catalog mode template : Run Text).run world = (.ok output, last)) :
    Told [.rendering catalog.size] world last := by
  obtain ⟨statements, between, hparse, hrest⟩ := Run.run_bind_eq_ok_iff.1 h
  obtain ⟨_, between', hreport, hrun⟩ := Run.run_bind_eq_ok_iff.1 hrest
  obtain ⟨-, rfl⟩ := Run.run_orFail_eq_ok hparse
  obtain ⟨-, rfl⟩ := Run.run_orFail_eq_ok hrun
  exact told_of_report hreport

theorem told_of_deliver {output? : Option Text} {output : Text}
    (h : (deliver output? output : Run Unit).run world = (.ok (), last)) :
    Told (reported output? (Utf8.encode output).length) world last := by
  cases output? with
  | none =>
    rw [run_deliver_output] at h
    split at h
    · cases h
      exact .nil rfl rfl
    · exact nomatch h
  | some path =>
    rw [run_deliver_file] at h
    split at h
    · exact nomatch h
    · split at h
      · exact nomatch h
      · next files' _ =>
        cases h
        -- what was done to the files is told by this event alone
        have hsilent : Told [] world { world with files := files' } := .nil rfl rfl
        exact hsilent.trans (World.told_note _ _)

end Stages

/-! ## The run -/

/-- **A run that succeeds has told its whole progress.** -/
theorem told_of_generate {source template : Text} {output? : Option Text} {mode : Phrase.MapMode}
    {world last : World} {stats : Stats}
    (h : (generate source template output? mode : Run Stats).run world = (.ok stats, last)) :
    ∃ removed, Told (progress source output? removed stats) world last := by
  obtain ⟨text, world₁, htemplate, h⟩ := Run.run_bind_eq_ok_iff.1 h
  obtain ⟨catalog, world₂, hcatalog, h⟩ := Run.run_bind_eq_ok_iff.1 h
  obtain ⟨_, world₃, hloaded, h⟩ := Run.run_bind_eq_ok_iff.1 h
  obtain ⟨output, world₄, hrender, h⟩ := Run.run_bind_eq_ok_iff.1 h
  obtain ⟨_, world₅, hdeliver, h⟩ := Run.run_bind_eq_ok_iff.1 h
  cases h
  obtain ⟨-, rfl⟩ := templateAt_eq_ok htemplate
  -- only a run that succeeds tells all of it, so each stage has a result here
  obtain ⟨removed, hcatalog⟩ := told_of_catalogFrom hcatalog
  have htold := ((hcatalog.trans (told_of_report hloaded)).trans
    (told_of_renderTemplate hrender)).trans (told_of_deliver hdeliver)
  refine ⟨removed, ?_⟩
  simpa [progress] using htold

end Codebook
