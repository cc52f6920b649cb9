import Codebook.Proofs.FileSystem.Faults
import Codebook.Proofs.Generation.Delivery
import Codebook.Proofs.Network.Address

/-!
# Errors in words

An error is told on one line, whatever the catalog, the files and the network hold, as long as the
paths of the run have no line feed. What is quoted from a catalog is escaped, faults of files have
fixed words, and an address has no line feed in it. A path that was not given can only be that of a
directory above the output. What is wrong with a template may be told in words of the template and
is left out here.
-/

namespace Codebook

open Text

/-! ## Numbers -/

namespace Decimal

theorem oneLine_take {digits : Text} (h : digits.OneLine) (n : Nat) : OneLine (digits.take n) :=
  h.of_subset fun _ => List.mem_of_mem_take

theorem oneLine_drop {digits : Text} (h : digits.OneLine) (n : Nat) : OneLine (digits.drop n) :=
  h.of_subset fun _ => List.mem_of_mem_drop

theorem oneLine_zeros (n : Nat) : OneLine (List.replicate n '0') := fun hmem =>
  absurd (List.eq_of_mem_replicate hmem) (by decide)

theorem oneLine_scientific (layout : Layout) {digits : Text} (h : digits.OneLine) (leading : Int) :
    OneLine (scientific layout digits leading) := by
  have hfraction : OneLine (if (digits.drop 1).isEmpty then [] else '.' :: digits.drop 1) := by
    split
    · exact oneLine_nil
    · exact oneLine_cons.2 ⟨by decide, oneLine_drop h 1⟩
  have hsign : OneLine (if layout.plusSign && 0 ≤ leading then ['+'] else []) := by
    split <;> decide
  unfold scientific
  simp only [oneLine_append, oneLine_cons]
  exact ⟨⟨⟨oneLine_take h 1, hfraction⟩, by decide, hsign⟩, oneLine_ofInt leading⟩

theorem oneLine_positional {digits : Text} (h : digits.OneLine) (leading : Int) :
    OneLine (positional digits leading) := by
  unfold positional
  split
  · simp only [oneLine_append, oneLine_cons]
    exact ⟨⟨by decide, by decide, oneLine_zeros _⟩, h⟩
  · have hfraction (n : Nat) :
        OneLine (if (digits.drop n).isEmpty then ['0'] else digits.drop n) := by
      split
      · decide
      · exact oneLine_drop h n
    simp only [oneLine_append, oneLine_cons]
    exact ⟨⟨oneLine_take h _, oneLine_zeros _⟩, by decide, hfraction _⟩

theorem oneLine_digits (layout : Layout) (decimal : Digits) : OneLine (decimal.toText layout) := by
  unfold Digits.toText
  dsimp only
  split
  · exact oneLine_positional (oneLine_ofNat _) _
  · exact oneLine_scientific layout (oneLine_ofNat _) _

theorem oneLine_ofFloat (layout : Layout) (x : Float) : OneLine (ofFloat layout x) := by
  unfold ofFloat
  cases Binary.ofFloat x with
  | nan => exact oneLine_literal (by decide)
  | infinite negative =>
    cases negative with
    | false => exact oneLine_literal (by decide)
    | true => exact oneLine_literal (by decide)
  | finite negative significand exponent =>
    have hmagnitude := oneLine_digits layout (shortest significand exponent)
    cases negative with
    | false => exact hmagnitude
    | true => exact oneLine_cons.2 ⟨by decide, hmagnitude⟩

end Decimal

/-! ## Catalogs -/

namespace Json

theorem oneLine_found (found : Found) : OneLine found.message := by
  cases found with
  | null | sequence | map => exact oneLine_literal (by decide)
  | boolean value =>
    cases value with
    | false => exact oneLine_literal (by decide)
    | true => exact oneLine_literal (by decide)
  | integer value =>
    exact oneLine_between (oneLine_literal (by decide)) (oneLine_ofInt value) (by decide)
  | float value =>
    have hvalue := Decimal.oneLine_ofFloat Found.layout value
    exact oneLine_between (oneLine_literal (by decide)) hvalue (by decide)
  | text value => exact oneLine_append.2 ⟨oneLine_literal (by decide), oneLine_quoted value⟩

theorem oneLine_codeError (reason : CodeError) : OneLine reason.message := by
  cases reason with
  | _ => exact oneLine_literal (by decide)

theorem oneLine_cause (cause : Cause) : OneLine cause.message := by
  cases cause with
  | notObject found | notString found =>
    exact oneLine_between (oneLine_literal (by decide)) (oneLine_found found)
      (oneLine_literal (by decide))
  | badKey key reason =>
    have hkey : OneLine ("error code ".toList ++ key.quoted ++ " is not an integer: ".toList) :=
      oneLine_between (oneLine_literal (by decide)) (oneLine_quoted key)
        (oneLine_literal (by decide))
    exact oneLine_append.2 ⟨hkey, oneLine_codeError reason⟩
  | _ => exact oneLine_literal (by decide)

end Json

/-- **What is wrong with a catalog is told on one line, whatever the catalog holds.** -/
theorem oneLine_catalogFault (fault : CatalogFault) : OneLine fault.message := by
  have hcause := Json.oneLine_cause fault.fault.cause
  have hline : OneLine " at line ".toList := oneLine_literal (by decide)
  have hcolumn : OneLine " column ".toList := oneLine_literal (by decide)
  exact oneLine_between (oneLine_between hcause hline (oneLine_ofNat _)) hcolumn (oneLine_ofNat _)

/-! ## Downloads -/

theorem oneLine_of_reason? {status : Nat} {reason : Text}
    (h : Response.reason? status = some reason) : reason.OneLine := by
  unfold Response.reason? at h
  split at h
  all_goals first
    | exact Option.some.inj h ▸ oneLine_literal (by decide)
    | cases h

theorem oneLine_statusText (status : Nat) : OneLine (Response.statusText status) := by
  have hreason : OneLine ((Response.reason? status).getD "<unknown status code>".toList) := by
    cases hsome : Response.reason? status with
    | none => exact oneLine_literal (by decide)
    | some reason => exact oneLine_of_reason? hsome
  exact oneLine_append.2 ⟨oneLine_ofNat status, oneLine_cons.2 ⟨by decide, hreason⟩⟩

theorem oneLine_get {source : Text} (h : source.OneLine) : OneLine ("GET ".toList ++ source) :=
  oneLine_append.2 ⟨oneLine_literal (by decide), h⟩

theorem oneLine_invalidUrl {source : Text} (h : source.OneLine) :
    OneLine (DownloadFault.invalidUrl source).message :=
  oneLine_append.2 ⟨oneLine_get h, oneLine_literal (by decide)⟩

theorem oneLine_refused {source : Text} (h : source.OneLine) (status : Nat) :
    OneLine (DownloadFault.refused source status).message :=
  oneLine_between (oneLine_get h) (oneLine_literal (by decide)) (oneLine_statusText status)

theorem oneLine_unreachable {source : Text} {url : Url} (h : source.OneLine)
    (hurl : OneLine url.toText) : OneLine (DownloadFault.unreachable source url).message := by
  have hfront : OneLine ("GET ".toList ++ source ++ ": error sending request for url (".toList) :=
    oneLine_append.2 ⟨oneLine_get h, oneLine_literal (by decide)⟩
  exact oneLine_between hfront hurl (by decide)

/-! ## Errors of a run -/

/-- The error is told on one line, if the template is not to blame. -/
def Error.OneLine : Error → Prop
  | .template _ => True
  | error => error.message.OneLine

theorem oneLine_fault {lead path : Text} {fault : FileFault} (hlead : lead.OneLine)
    (hpath : path.OneLine) (h : fault.IsKnown) :
    OneLine (lead ++ path ++ ": ".toList ++ fault.message) :=
  oneLine_append.2 ⟨oneLine_between hlead hpath (oneLine_literal (by decide)), h.oneLine⟩

theorem oneLine_read {path : Text} {fault : FileFault} (hpath : path.OneLine) (h : fault.IsKnown) :
    (Error.read path fault).OneLine :=
  oneLine_fault (oneLine_literal (by decide)) hpath h

theorem oneLine_write {path : Text} {fault : FileFault} (hpath : path.OneLine) (h : fault.IsKnown) :
    (Error.write path fault).OneLine :=
  oneLine_fault (oneLine_literal (by decide)) hpath h

theorem oneLine_parse (fault : CatalogFault) : (Error.parse fault).OneLine :=
  oneLine_append.2 ⟨oneLine_literal (by decide), oneLine_catalogFault fault⟩

theorem oneLine_download {fault : DownloadFault} (h : OneLine fault.message) :
    (Error.download fault).OneLine :=
  oneLine_append.2 ⟨oneLine_literal (by decide), h⟩

namespace Run

variable {α β : Type} {Q : Error → Prop}

/-- Every error of a program has a property. -/
def Fails (Q : Error → Prop) (p : Run α) : Prop := ∀ world, (p.run world).1.Fails Q

theorem fails_pure (a : α) : Fails Q (pure a : Run α) := fun _ => Except.fails_ok

theorem fails_throw {e : Error} (h : Q e) : Fails Q (throw e : Run α) := fun _ =>
  Except.fails_error.2 h

theorem fails_orFail {ε : Type} {error : ε → Error} {result : Except ε α}
    (h : result.Fails fun e => Q (error e)) : Fails Q (orFail error result : Run α) := by
  cases result with
  | ok a => exact fails_pure a
  | error e => exact fails_throw (h e rfl)

theorem Fails.bind {p : Run α} {next : α → Run β} (hp : Fails Q p) (hnext : ∀ a, Fails Q (next a)) :
    Fails Q (p >>= next) := by
  intro world
  have hstep := hp world
  rw [run_bind]
  generalize p.run world = stop at hstep ⊢
  rcases stop with ⟨e | a, between⟩
  · exact Except.fails_error.2 (hstep e rfl)
  · exact hnext a between

/-- What never fails goes on with what it gives in some world. -/
theorem fails_lift_bind {p : StateM World α} {next : α → Run β}
    (h : ∀ world, Fails Q (next (p world).1)) : Fails Q (ExceptT.lift p >>= next) := by
  intro world
  rw [run_bind]
  exact h world (p world).2

theorem fails_report (event : Event) : Fails Q (Host.report event : Run Unit) := fun _ =>
  Except.fails_ok

end Run

open Run

/-- Reading a file fails with the fault of the file. -/
theorem fails_readFile_bind {α : Type} {path : Text} {next : Bytes → Run α} (hpath : path.OneLine)
    (hnext : ∀ content, Fails Error.OneLine (next content)) :
    Fails Error.OneLine (do
      let content ← orFail (.read path) (← Host.readFile path)
      next content) := by
  refine fails_lift_bind fun world => ?_
  refine Fails.bind (fails_orFail fun fault h => ?_) hnext
  exact oneLine_read hpath (world.files.fails_read path fault h)

theorem fails_templateAt {path : Text} (hpath : path.OneLine) :
    Fails Error.OneLine (templateAt path : Run Text) := by
  refine fails_readFile_bind hpath fun content => ?_
  cases Utf8.decode? content with
  | some t => exact fails_pure t
  | none => exact fails_throw (oneLine_read hpath trivial)

theorem fails_catalogOfBytes (raw : Bytes) :
    Fails Error.OneLine (catalogOfBytes raw : Run Catalog) :=
  (fails_report _).bind fun _ => fails_orFail fun fault _ => oneLine_parse fault

theorem fails_catalogAt {path : Text} (hpath : path.OneLine) :
    Fails Error.OneLine (catalogAt path : Run Catalog) :=
  fails_readFile_bind hpath fails_catalogOfBytes

theorem fails_catalogAtUrl (scheme : Scheme) {source : Text} (hsource : source.OneLine) :
    Fails Error.OneLine (catalogAtUrl scheme source : Run Catalog) := by
  refine Fails.bind (fails_report _) fun _ => ?_
  cases hparse : Url.parse scheme source with
  | none =>
    exact fails_throw (oneLine_download (oneLine_invalidUrl hsource))
  | some url =>
    -- whether anybody answers depends on the world, what is said about it does not
    refine fails_lift_bind fun world => ?_
    cases (Host.fetch url : StateM World (Option Response)) world |>.1 with
    | none =>
      have hurl := Url.oneLine_of_parse hparse
      exact fails_throw (oneLine_download (oneLine_unreachable hsource hurl))
    | some response =>
      dsimp only
      split
      · exact fails_catalogOfBytes response.body
      · exact fails_throw (oneLine_download (oneLine_refused hsource response.status))

theorem fails_catalogFrom {source : Text} (hsource : source.OneLine) :
    Fails Error.OneLine (catalogFrom source : Run Catalog) := by
  unfold catalogFrom
  split
  · exact fails_catalogAtUrl _ hsource
  · exact fails_catalogAt hsource

theorem fails_renderTemplate (catalog : Catalog) (mode : Phrase.MapMode) (template : Text) :
    Fails Error.OneLine (renderTemplate catalog mode template : Run Text) :=
  Fails.bind (fails_orFail fun _ _ => trivial) fun _ =>
    (fails_report _).bind fun _ => fails_orFail fun _ _ => trivial

theorem fails_deliver {path? : Option Text} (hpath : ∀ path ∈ path?, path.OneLine)
    (output : Text) : Fails Error.OneLine (deliver path? output : Run Unit) := by
  intro world
  cases path? with
  | none =>
    rw [run_deliver_output]
    split
    · exact Except.fails_ok
    · exact Except.fails_error.2 (oneLine_write (oneLine_literal (by decide)) trivial)
  | some path =>
    have hcreated := world.files.fails_created (Path.parents path)
    rw [run_deliver_file]
    generalize world.files.created (Path.parents path) = result at hcreated ⊢
    rcases result with ⟨fault | _, files⟩
    · -- the fault is that of a directory above, and so is the path that it comes with
      refine Except.fails_error.2 (oneLine_write ?_ (hcreated fault rfl))
      exact Path.oneLine_nearest_parent (hpath path rfl)
    · dsimp only
      cases hwrite : files.write path (Utf8.encode output) with
      | error fault =>
        have hfault := files.fails_write path _ fault hwrite
        exact Except.fails_error.2 (oneLine_write (hpath path rfl) hfault)
      | ok files' => exact Except.fails_ok

/-- **An error that is not the template's is told on one line, if the paths are.** -/
theorem fails_generate {source template : Text} {output? : Option Text} (hsource : source.OneLine)
    (htemplate : template.OneLine) (houtput : ∀ path ∈ output?, path.OneLine)
    (mode : Phrase.MapMode) :
    Fails Error.OneLine (generate source template output? mode : Run Stats) := by
  refine Fails.bind (fails_templateAt htemplate) fun text => ?_
  refine Fails.bind (fails_catalogFrom hsource) fun catalog => ?_
  refine Fails.bind (fails_report _) fun _ => ?_
  refine Fails.bind (fails_renderTemplate catalog mode text) fun output => ?_
  exact Fails.bind (fails_deliver houtput output) fun _ => fails_pure _

end Codebook
