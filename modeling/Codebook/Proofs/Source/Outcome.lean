import Codebook.Proofs.Generation.Delivery

/-!
# What comes out of a source

A catalog is what the parser makes of some bytes. Whether these are given, stand in a file or are
the answer of a server makes no difference once they are there, and what may go wrong before has
errors of its own: `run_catalogAt` and `run_catalogAtUrl` are the two ways as equations. A template
is the text that its file encodes, so for a template, unlike for a catalog, the file has to be UTF-8
throughout.
-/

namespace Codebook

/-! ## Remote sources -/

namespace Scheme

/-- No source starts with both schemes. -/
theorem not_https_of_http {source : Text} (h : http.opening <+: source) :
    ¬ https.opening <+: source := fun hhttps => by
  have hlength : http.opening.length ≤ https.opening.length := by decide
  exact absurd (List.prefix_of_prefix_length_le h hhttps hlength) (by decide)

/-- A scheme is found where a source starts with it. -/
theorem ofSource?_of_opening_prefix {scheme : Scheme} {source : Text}
    (h : scheme.opening <+: source) : ofSource? source = some scheme := by
  unfold ofSource?
  cases scheme with
  | http => rw [if_pos (List.isPrefixOf_iff_prefix.2 h)]
  | https =>
    rw [if_neg fun hhttp => not_https_of_http (List.isPrefixOf_iff_prefix.1 hhttp) h,
      if_pos (List.isPrefixOf_iff_prefix.2 h)]

/-- Every other source is a path. -/
theorem ofSource?_eq_none {source : Text} (hhttp : ¬ http.opening <+: source)
    (hhttps : ¬ https.opening <+: source) : ofSource? source = none := by
  unfold ofSource?
  rw [if_neg fun h => hhttp (List.isPrefixOf_iff_prefix.1 h),
    if_neg fun h => hhttps (List.isPrefixOf_iff_prefix.1 h)]

end Scheme

/-! ## Catalogs -/

theorem run_catalogOfBytes (raw : Bytes) (world : World) :
    ((catalogOfBytes raw : Run Catalog).run world).1 = (Catalog.parse raw).mapError .parse := by
  unfold catalogOfBytes
  rw [Run.run_bind, Run.run_report]
  dsimp only
  rw [Run.run_orFail]

/-- A catalog in a file is what its bytes write, or the file cannot be read. -/
theorem run_catalogAt (path : Text) (world : World) :
    ((catalogAt path : Run Catalog).run world).1 =
      match world.files.read path with
      | .error fault => .error (.read path fault)
      | .ok raw => (Catalog.parse raw).mapError .parse := by
  unfold catalogAt
  rw [Run.run_bind, Run.run_readFile]
  dsimp only
  rw [Run.run_bind, Run.run_orFail]
  cases world.files.read path with
  | error fault => rfl
  | ok raw => exact run_catalogOfBytes raw world

/-- A remote catalog is what the bytes of a successful answer write, or the download fails. -/
theorem run_catalogAtUrl (scheme : Scheme) (source : Text) (world : World) :
    ((catalogAtUrl scheme source : Run Catalog).run world).1 =
      match Url.parse scheme source with
      | none => .error (.download (.invalidUrl source))
      | some url =>
        match world.network url with
        | none => .error (.download (.unreachable source url))
        | some response =>
          if response.isSuccess then (Catalog.parse response.body).mapError .parse
          else .error (.download (.refused source response.status)) := by
  unfold catalogAtUrl
  rw [Run.run_bind, Run.run_report]
  -- the event in front does not change who answers
  have hnetwork : (World.note (.downloading source) world).2.network = world.network :=
    ((World.SameButLog.refl world).note_left _).network
  generalize (World.note (.downloading source) world).2 = noted at hnetwork
  cases Url.parse scheme source with
  | none => rfl
  | some url =>
    dsimp only
    rw [Run.run_bind, Run.run_fetch, hnetwork]
    cases world.network url with
    | none => rfl
    | some response =>
      dsimp only
      split
      · exact run_catalogOfBytes response.body noted
      · rfl

/-- A source that is a path is read from its file. -/
theorem run_catalogFrom_of_read {world : World} {source : Text} {raw : Bytes}
    (hsource : Scheme.ofSource? source = none) (hread : world.files.read source = .ok raw) :
    ((catalogFrom source : Run Catalog).run world).1 = (Catalog.parse raw).mapError .parse := by
  rw [catalogFrom_of_path hsource, run_catalogAt, hread]

/-- A remote source comes to what its answer brings. -/
theorem run_catalogFrom_of_answer {world : World} {source : Text} {scheme : Scheme} {url : Url}
    {response : Response} (hsource : Scheme.ofSource? source = some scheme)
    (hurl : Url.parse scheme source = some url) (hresponse : world.network url = some response) :
    ((catalogFrom source : Run Catalog).run world).1 =
      if response.isSuccess then (Catalog.parse response.body).mapError .parse
      else .error (.download (.refused source response.status)) := by
  unfold catalogFrom
  rw [hsource]
  dsimp only
  rw [run_catalogAtUrl, hurl]
  dsimp only
  rw [hresponse]

theorem Response.isSuccess_iff {response : Response} :
    response.isSuccess = true ↔ 200 ≤ response.status ∧ response.status < 300 := by
  simp [isSuccess]

/-- A refusal names the source and the number of the status. -/
theorem exists_message_refused (source : Text) (status : Nat) :
    ∃ words, (Error.download (.refused source status)).message =
      "download failed: GET ".toList ++ source ++ " returned ".toList ++ Text.ofNat status ++
        ' ' :: words := by
  refine ⟨(Response.reason? status).getD "<unknown status code>".toList, ?_⟩
  show "download failed: ".toList ++ ("GET ".toList ++ source ++ " returned ".toList ++
    Response.statusText status) = _
  rw [Response.statusText]
  simp only [← List.append_assoc]
  rfl

/-! ## Templates -/

/-- A template is a text whose bytes are in its file. -/
theorem run_templateAt_eq_ok_iff {path text : Text} {world : World} :
    ((templateAt path : Run Text).run world).1 = .ok text ↔
      world.files.read path = .ok (Utf8.encode text) := by
  constructor
  · intro h
    exact (templateAt_eq_ok (Prod.ext h rfl)).1
  · intro h
    rw [run_templateAt_of_read h]

/-! ## One outcome -/

/-- What the parser refuses was read before. -/
theorem mapError_parse_ne_read (result : Except CatalogFault Catalog) (path : Text)
    (fault : FileFault) : result.mapError Error.parse ≠ .error (.read path fault) := by
  cases result with
  | ok catalog => exact fun h => nomatch h
  | error parseFault => exact fun h => nomatch h

/--
**A catalog is what its bytes write, wherever they come from.**

They need not be UTF-8, nor a catalog: the outcome is that of the parser, which is never that a file
cannot be read. A source is a path unless it starts with `http://` or `https://` letter by letter. A
server that answers with another status than success has refused the catalog, whatever its body is.
A template is read from the same bytes exactly if they are UTF-8, and is the text that they encode.
-/
theorem catalogFrom_eq_parse (world : World) (raw : Bytes) :
    let parsed : Except Error Catalog := (Catalog.parse raw).mapError .parse
    ((catalogOfBytes raw : Run Catalog).run world).1 = parsed ∧
    (∀ path fault, parsed ≠ .error (.read path fault)) ∧
    (∀ path, world.files.read path = .ok raw →
      ((catalogAt path : Run Catalog).run world).1 = parsed ∧
      (¬ "http://".toList <+: path → ¬ "https://".toList <+: path →
        ((catalogFrom path : Run Catalog).run world).1 = parsed) ∧
      ∀ text, ((templateAt path : Run Text).run world).1 = .ok text ↔ raw = Utf8.encode text) ∧
    ∀ (scheme : Scheme) (source : Text) (url : Url) (status : Nat),
      scheme.opening <+: source → Url.parse scheme source = some url →
      world.network url = some ⟨status, raw⟩ →
      (200 ≤ status ∧ status < 300 → ((catalogFrom source : Run Catalog).run world).1 = parsed) ∧
      (¬ (200 ≤ status ∧ status < 300) →
        let refusal : Error := .download (.refused source status)
        ((catalogFrom source : Run Catalog).run world).1 = .error refusal ∧
        ∃ words, refusal.message = "download failed: GET ".toList ++ source ++
          " returned ".toList ++ Text.ofNat status ++ ' ' :: words) := by
  refine ⟨run_catalogOfBytes raw world, mapError_parse_ne_read _,
    fun path hread => ⟨?_, ?_, ?_⟩, ?_⟩
  · rw [run_catalogAt, hread]
  · -- neither prefix stands in front, so the source is a path
    intro hhttp hhttps
    exact run_catalogFrom_of_read (Scheme.ofSource?_eq_none hhttp hhttps) hread
  · intro text
    rw [run_templateAt_eq_ok_iff, hread]
    exact ⟨Except.ok.inj, congrArg Except.ok⟩
  · intro scheme source url status hopening hurl hresponse
    -- the status alone decides whether the body is read
    have hanswer := run_catalogFrom_of_answer (Scheme.ofSource?_of_opening_prefix hopening) hurl
      hresponse
    refine ⟨fun hstatus => ?_, fun hstatus => ⟨?_, exists_message_refused source status⟩⟩
    · rw [hanswer, if_pos (Response.isSuccess_iff.2 hstatus)]
    · rw [hanswer, if_neg fun hsuccess => hstatus (Response.isSuccess_iff.1 hsuccess)]

/-- A file with one byte that is no text, at a path that looks like an address. -/
def brokenFiles : FileSystem :=
  (FileSystem.empty.put .root "HTTP:".toList .directory (by decide)).put
    ⟨["HTTP:".toList], by decide⟩ "x".toList (.file [0xFF]) (by decide)

/-- A catalog of no codes is at every address, and refused to those who ask for it by `http`. -/
def pickyWorld : World :=
  { World.ofFiles brokenFiles with
    network := fun url =>
      some ⟨if url.scheme = .http then 404 else 200, Utf8.encode "\x7b\x7d".toList⟩ }

/-- The broken file is handed to the parser and is no template; the catalog that was refused is not
read, though it is one. -/
theorem catalogFrom_eq_parse_picky :
    pickyWorld.files.read "HTTP://x".toList = .ok [0xFF] ∧
    ((catalogFrom "HTTP://x".toList : Run Catalog).run pickyWorld).1 =
      (Catalog.parse [0xFF]).mapError .parse ∧
    (∀ text, ((templateAt "HTTP://x".toList : Run Text).run pickyWorld).1 ≠ .ok text) ∧
    Catalog.parse (Utf8.encode "\x7b\x7d".toList) = .ok .empty ∧
    (∃ url, Url.parse .https "https://h".toList = some url ∧
      pickyWorld.network url = some ⟨200, Utf8.encode "\x7b\x7d".toList⟩) ∧
    ((catalogFrom "https://h".toList : Run Catalog).run pickyWorld).1 = .ok .empty ∧
    (∃ url, Url.parse .http "http://h".toList = some url ∧
      pickyWorld.network url = some ⟨404, Utf8.encode "\x7b\x7d".toList⟩) ∧
    ((catalogFrom "http://h".toList : Run Catalog).run pickyWorld).1 =
      .error (.download (.refused "http://h".toList 404)) := by
  have hread : pickyWorld.files.read "HTTP://x".toList = .ok [0xFF] := rfl
  have hempty : Catalog.parse (Utf8.encode "\x7b\x7d".toList) = .ok .empty :=
    Catalog.parse_braces
  have hhttps : Url.parse .https "https://h".toList =
      some ⟨.https, ['h'], none, [[]], none, none⟩ := by decide +kernel
  have hhttp : Url.parse .http "http://h".toList =
      some ⟨.http, ['h'], none, [[]], none, none⟩ := by decide +kernel
  obtain ⟨-, -, hpath, -⟩ := catalogFrom_eq_parse pickyWorld [0xFF]
  obtain ⟨-, -, -, hremote⟩ := catalogFrom_eq_parse pickyWorld (Utf8.encode "\x7b\x7d".toList)
  obtain ⟨-, hfile, htemplate⟩ := hpath _ hread
  obtain ⟨hread200, -⟩ := hremote .https "https://h".toList _ 200 (by decide) hhttps rfl
  obtain ⟨-, hrefused⟩ := hremote .http "http://h".toList _ 404 (by decide) hhttp rfl
  refine ⟨hread, hfile (by decide) (by decide), fun text htext => ?_, hempty, ⟨_, hhttps, rfl⟩, ?_,
    ⟨_, hhttp, rfl⟩, (hrefused (by decide)).1⟩
  · have hdecode : Utf8.decode? [0xFF] = some text := by
      rw [(htemplate text).1 htext, Utf8.decode?_encode]
    -- a byte that starts no character
    have hnone : Utf8.decode? [0xFF] = none := by decide +kernel
    exact absurd (hdecode.symm.trans hnone) (Option.some_ne_none text)
  · rw [hread200 (by decide), hempty]
    rfl

end Codebook
