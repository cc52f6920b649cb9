import Codebook.Generation
import Codebook.Proofs.World.Congruence

/-!
# What a run tells

A run tells events one after the other, and its log takes those that the threshold shows. `Told`
says which events were told between two worlds. `sameTelling` relates programs that, from worlds
that differ in their logs and thresholds only, have the same outcome and tell the same events: so
the log of one is known from the log of the other. It holds of every operation of a run, and so of
every run.
-/

namespace Codebook

/-- The events that are shown of those that are told. -/
def Threshold.shown (threshold : Threshold) (events : List Event) : List Event :=
  events.filter (threshold.admits ·.severity)

namespace Threshold

theorem ofWord_word (threshold : Threshold) : ofWord threshold.word = threshold := by
  cases threshold with
  | off => rfl
  | upTo severity => cases severity <;> rfl

theorem shown_append (threshold : Threshold) (events others : List Event) :
    threshold.shown (events ++ others) = threshold.shown events ++ threshold.shown others :=
  List.filter_append events others

/-- No event matters less than a trace. -/
theorem shown_trace (events : List Event) : (upTo .trace).shown events = events :=
  List.filter_eq_self.2 fun event _ => by
    cases event <;> rfl

end Threshold

namespace World

/-- Between the worlds just these events were told, and it stayed the same which are shown. -/
structure Told (events : List Event) (before after : World) : Prop where
  threshold : after.threshold = before.threshold
  log : after.log = before.log ++ before.threshold.shown events

namespace Told

variable {events others : List Event} {a b c : World}

theorem nil (h : b.threshold = a.threshold) (hlog : b.log = a.log) : Told [] a b :=
  ⟨h, hlog.trans (List.append_nil _).symm⟩

theorem refl (world : World) : Told [] world world := nil rfl rfl

theorem trans (h : Told events a b) (h' : Told others b c) : Told (events ++ others) a c where
  threshold := h'.threshold.trans h.threshold
  log := by rw [h'.log, h.threshold, h.log, Threshold.shown_append, List.append_assoc]

/-- Where everything is shown, it is known what was told. -/
theorem unique (ha : a.threshold = .upTo .trace) (h : Told events a b) (h' : Told others a b) :
    events = others := by
  have hlog := h.log.symm.trans h'.log
  rw [ha, Threshold.shown_trace, Threshold.shown_trace] at hlog
  exact List.append_cancel_left hlog

end Told

theorem told_note (event : Event) (world : World) :
    Told [event] world (note event world).2 := by
  unfold note
  split
  · next h => exact ⟨rfl, by simp [Threshold.shown, h]⟩
  · next h => exact ⟨rfl, by simp [Threshold.shown, h]⟩

/-- The programs have the same outcome, and tell the same. -/
def sameTelling : Congruence (StateM World) where
  Rel p q := ∀ a b : World, a.SameButLog b →
    (p a).1 = (q b).1 ∧ (p a).2.SameButLog (q b).2 ∧
      ∃ events, Told events a (p a).2 ∧ Told events b (q b).2
  pure value a b h := ⟨rfl, h, [], .refl a, .refl b⟩
  map f hpq a b h := by
    obtain ⟨hresult, hworld, htold⟩ := hpq a b h
    exact ⟨congrArg f hresult, hworld, htold⟩
  bind {α β p q f g} hpq hfg a b h := by
    obtain ⟨hresult, hworld, events, ha, hb⟩ := hpq a b h
    have hnext := hfg (p a).1 _ _ hworld
    show (f (p a).1 (p a).2).1 = (g (q b).1 (q b).2).1 ∧
      (f (p a).1 (p a).2).2.SameButLog (g (q b).1 (q b).2).2 ∧
      ∃ events, Told events a (f (p a).1 (p a).2).2 ∧ Told events b (g (q b).1 (q b).2).2
    rw [← hresult]
    obtain ⟨hlast, hworld', others, ha', hb'⟩ := hnext
    exact ⟨hlast, hworld', events ++ others, ha.trans ha', hb.trans hb'⟩

/-- What does not look at the log and tells nothing is related to itself. -/
theorem sameTelling_of_silent {α : Type} {p : StateM World α} (h : sameOutcome.Rel p p)
    (hsilent : ∀ world, Told [] world (p world).2) : sameTelling.Rel p p :=
  fun a b hab => ⟨(h a b hab).1, (h a b hab).2, [], hsilent a, hsilent b⟩

theorem told_changeFiles (change : FileSystem → Except FileFault FileSystem) (world : World) :
    Told [] world (changeFiles change world).2 := by
  unfold changeFiles
  split
  · exact .refl world
  · exact .nil rfl rfl

theorem told_write (content : Bytes) (world : World) :
    Told [] world (World.write content world).2 := by
  unfold World.write
  split
  · exact .nil rfl rfl
  · exact .refl world

theorem sameTelling_report (event : Event) :
    sameTelling.Rel (Host.report event) (Host.report event) := by
  intro a b h
  obtain ⟨hresult, hworld⟩ := sameOutcome_reads.report event a b h
  exact ⟨hresult, hworld, [event], told_note event a, told_note event b⟩

theorem sameTelling_reads : sameTelling.Reads where
  readFile path := sameTelling_of_silent (sameOutcome_reads.readFile path) .refl
  fetch url := sameTelling_of_silent (sameOutcome_reads.fetch url) .refl
  report := sameTelling_report

theorem sameTelling_writes : sameTelling.Writes where
  makeDirectory path :=
    sameTelling_of_silent (sameOutcome_writes.makeDirectory path) (told_changeFiles _)
  isDirectory path := sameTelling_of_silent (sameOutcome_writes.isDirectory path) .refl
  writeFile path content :=
    sameTelling_of_silent (sameOutcome_writes.writeFile path content) (told_changeFiles _)
  print content := sameTelling_of_silent (sameOutcome_writes.print content) (told_write content)
  report := sameTelling_report

end World

end Codebook
