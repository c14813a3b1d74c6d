import TexReflow.Command.Run
import TexReflow.Proofs.Encoding
import TexReflow.Proofs.Writing

/-!
# Calls

A call is all or nothing. Either there is a result, and it goes to one place, the output or a single
file; or there is none, and the call prints nothing and leaves all files as they are.
-/

namespace TexReflow.Command

/-- The file that a path names can be read, and this is its text with line feeds for row breaks. -/
def Files.Holds (fs : Files) (cwd p : Path) (t : Text) : Prop :=
  ∃ octets u, fs.read cwd p = .ok octets ∧ Text.Utf8.decode octets = .ok u ∧ u.unifyBreaks = t

/-- Of all files only the one that a path names may have changed or is new, and it holds the text.
-/
def Files.Replaced (fs fs' : Files) (cwd p : Path) (t : Text) : Prop :=
  ∃ place octets access, fs.locate cwd p = .ok place ∧ fs'.locate cwd p = .ok place ∧
    (fs.get? place = none ∨ ∃ old, fs.get? place = some (.file old access)) ∧
    fs'.get? place = some (.file octets access) ∧ Text.Utf8.decode octets = .ok t ∧
    ∀ q, q ≠ place → fs'.get? q = fs.get? q

/-- The path that the options give for the result. -/
def Options.Sends (o : Options) (document path : Text) : Prop :=
  o.inPlace = true ∧ path = document ∨ o.inPlace = false ∧ o.output = some path ∧ path ≠ []

/-- The settings can be found and read, and with what the options turn off they make the text of the
document. -/
def Produces (env : Environment) (fs : Files) (document : Text) (o : Options) (t : Text) : Prop :=
  ∃ path settings source cfg, o.settingsPath? env = some path ∧ fs.Holds env.cwd path settings ∧
    Config.read settings {} = .ok cfg ∧ fs.Holds env.cwd (Path.ofText document) source ∧
    Config.process
      { cfg with
        joinLines := cfg.joinLines && !o.keepNewlines
        splitSentences := cfg.splitSentences && !o.keepSentences }
      source = .ok t

theorem replaced_of_write {fs fs' : Files} {cwd p : Path} {t : Text}
    (h : fs.write cwd p (Text.Utf8.encode t) = .ok fs') : fs.Replaced fs' cwd p t := by
  obtain ⟨place, access, hplace, hold, rfl⟩ := Files.write_eq_ok h
  exact ⟨place, _, access, hplace, Files.locate_put hplace hold, hold, Files.get?_put_self ..,
    Text.Utf8.decode_encode t, fun q hq => Files.get?_put_of_locate hplace _ hq⟩

theorem Options.Sends.unique {o : Options} {document path path' : Text}
    (h : o.Sends document path) (h' : o.Sends document path') : path = path' := by
  rcases h with ⟨hplace, rfl⟩ | ⟨hplace, houtput, -⟩ <;>
    rcases h' with ⟨hplace', rfl⟩ | ⟨hplace', houtput', -⟩ <;> simp_all

theorem Options.target?_cases (o : Options) (document : Text) :
    (∃ path, o.Sends document path ∧ o.target? document = some (Path.ofText path)) ∨
      (∀ path, ¬o.Sends document path) ∧ o.target? document = none := by
  rw [target?]
  cases hplace : o.inPlace with
  | true => exact .inl ⟨document, .inl ⟨hplace, rfl⟩, rfl⟩
  | false =>
      rcases houtput : o.output with _ | _ | ⟨c, path⟩
      · exact .inr ⟨by simp [Sends, hplace, houtput], rfl⟩
      · exact .inr ⟨by simp [Sends, hplace, houtput], rfl⟩
      · exact .inl ⟨c :: path, .inr ⟨hplace, houtput, List.cons_ne_nil c path⟩, rfl⟩

theorem decodeFile_eq_ok_iff {octets : List UInt8} {t : Text} :
    decodeFile octets = .ok t ↔ ∃ u, Text.Utf8.decode octets = .ok u ∧ u.unifyBreaks = t := by
  rw [decodeFile]
  cases Text.Utf8.decode octets <;> simp

theorem loadDocument_eq_ok_iff {fs : Files} {cwd p : Path} {t : Text} :
    loadDocument (fs.read cwd p) = .ok t ↔ fs.Holds cwd p t := by
  cases hread : fs.read cwd p with
  | error e => simp [loadDocument, Files.Holds, hread]
  | ok octets => simp [loadDocument, Files.Holds, hread, decodeFile_eq_ok_iff]

theorem loadSettings_eq_ok_iff {fs : Files} {cwd p : Path} {cfg : Config} :
    loadSettings p (fs.read cwd p) = .ok cfg ↔
      ∃ t, fs.Holds cwd p t ∧ Config.read t {} = .ok cfg := by
  cases hread : fs.read cwd p with
  | error e => simp [loadSettings, Files.Holds, hread]
  | ok octets =>
      simp [loadSettings, Files.Holds, hread, bind_eq_ok_iff, mapError_eq_ok_iff,
        decodeFile_eq_ok_iff]

/-- The steps that the result of a call comes from. -/
theorem work_snd (o : Options) (path : Path) (settings document : Except FileError (List UInt8)) :
    (work o path settings document).2 = (do
      let cfg ← loadSettings path settings
      let source ← loadDocument document
      ((o.adjust cfg).process source).mapError .ofFault) := by
  rw [work]
  cases loadSettings path settings with
  | error f => rfl
  | ok cfg => cases loadDocument document <;> rfl

section

variable {env : Environment} {fs : Files} {document t : Text} {o : Options}

theorem work_eq_ok_iff {path : Path} (hpath : o.settingsPath? env = some path) :
    (work o path (fs.read env.cwd path) (fs.read env.cwd (Path.ofText document))).2 = .ok t ↔
      Produces env fs document o t := by
  simp only [work_snd, bind_eq_ok_iff, mapError_eq_ok_iff, loadSettings_eq_ok_iff,
    loadDocument_eq_ok_iff]
  constructor
  · rintro ⟨cfg, ⟨settings, hsettings, hread⟩, source, hsource, ht⟩
    exact ⟨path, settings, source, cfg, hpath, hsettings, hread, hsource, ht⟩
  · rintro ⟨path', settings, source, cfg, hpath', hsettings, hread, hsource, ht⟩
    cases hpath.symm.trans hpath'
    exact ⟨cfg, ⟨settings, hsettings, hread⟩, source, hsource, ht⟩

theorem Produces.unique {t' : Text} (h : Produces env fs document o t)
    (h' : Produces env fs document o t') : t = t' := by
  obtain ⟨path, -, -, -, hpath, -⟩ := id h
  exact Except.ok.inj (((work_eq_ok_iff hpath).mpr h).symm.trans ((work_eq_ok_iff hpath).mpr h'))

end

/-- The ways a call can go, each with its outcome. -/
inductive Course (env : Environment) (fs : Files) (args : List Text) : Outcome → Prop where
  | help (hparse : Options.parse args = .error .help) :
      Course env fs args ⟨.exit 0, helpText.toList, "", fs⟩
  | misuse {e : UsageError} {stderr : String} (hparse : Options.parse args = .error (.misuse e)) :
      Course env fs args ⟨.exit 2, [], stderr, fs⟩
  | failed {document : Text} {o : Options} {ending : Ending} {stderr : String}
      (hparse : Options.parse args = .ok (document, o))
      (hnone : ∀ t, ¬Produces env fs document o t) (hending : ending ≠ .exit 0) :
      Course env fs args ⟨ending, [], stderr, fs⟩
  | printed {document t : Text} {o : Options} {stderr : String}
      (hparse : Options.parse args = .ok (document, o)) (ht : Produces env fs document o t)
      (hpath : ∀ path, ¬o.Sends document path) : Course env fs args ⟨.exit 0, t, stderr, fs⟩
  | unwritten {document t path : Text} {o : Options} {e : FileError} {stderr : String}
      (hparse : Options.parse args = .ok (document, o)) (ht : Produces env fs document o t)
      (hpath : o.Sends document path)
      (hwrite : fs.write env.cwd (Path.ofText path) (Text.Utf8.encode t) = .error e) :
      Course env fs args ⟨.abort (.inaccessible e), [], stderr, fs⟩
  | written {document t path : Text} {o : Options} {fs' : Files} {stderr : String}
      (hparse : Options.parse args = .ok (document, o)) (ht : Produces env fs document o t)
      (hpath : o.Sends document path)
      (hwrite : fs.write env.cwd (Path.ofText path) (Text.Utf8.encode t) = .ok fs') :
      Course env fs args ⟨.exit 0, [], stderr, fs'⟩

/-- Once there is a settings file to look for, a call goes as its two files make it. -/
theorem reply_course {env : Environment} {fs : Files} {args : List Text} {document : Text}
    {o : Options} {path : Path} (hparse : Options.parse args = .ok (document, o))
    (hpath : o.settingsPath? env = some path) :
    Course env fs args ((o.reply document path (fs.read env.cwd path)
      (fs.read env.cwd (Path.ofText document))).finish env fs) := by
  rcases hwork : work o path (fs.read env.cwd path) (fs.read env.cwd (Path.ofText document)) with
    ⟨events, result⟩
  have hresult (t : Text) : result = .ok t ↔ Produces env fs document o t := by
    rw [← work_eq_ok_iff hpath, hwork]
  simp only [Options.reply, hwork]
  cases result with
  | error f =>
      have hnone (t : Text) (ht : Produces env fs document o t) : False := by
        cases (hresult t).mpr ht
      cases f with
      | reported message => exact .failed hparse hnone (by simp)
      | aborted cause => exact .failed hparse hnone nofun
  | ok t =>
      have ht := (hresult t).mp rfl
      rcases o.target?_cases document with ⟨path, hpath, htarget⟩ | ⟨hpath, htarget⟩
      · simp only [htarget, Reply.finish]
        cases hwrite : fs.write env.cwd (Path.ofText path) (Text.Utf8.encode t) with
        | error e => exact .unwritten hparse ht hpath hwrite
        | ok fs' => exact .written hparse ht hpath hwrite
      · simp only [htarget]
        exact .printed hparse ht hpath

theorem run_course (env : Environment) (fs : Files) (args : List Text) :
    Course env fs args (run env fs args) := by
  rw [run]
  rcases hparse : Options.parse args with (_ | e) | ⟨document, o⟩
  · simp only [Stop.reply, Reply.finish]
    exact .help hparse
  · exact .misuse hparse
  · cases hpath : o.settingsPath? env with
    | none =>
        have hnone (t : Text) : ¬Produces env fs document o t := by
          rintro ⟨path, -, -, -, hpath', -⟩
          cases hpath.symm.trans hpath'
        simp only [hpath, homeless, Reply.finish]
        exact .failed hparse hnone nofun
    | some path =>
        simp only [hpath]
        exact reply_course hparse hpath

namespace Course

variable {env : Environment} {fs : Files} {args : List Text} {out : Outcome}

theorem ending_iff (h : Course env fs args out) :
    out.ending = .exit 0 ↔ Options.parse args = .error .help ∨
      ∃ document o t, Options.parse args = .ok (document, o) ∧ Produces env fs document o t ∧
        ∀ path, o.Sends document path →
          ∃ fs', fs.write env.cwd (Path.ofText path) (Text.Utf8.encode t) = .ok fs' := by
  cases h with
  | help hparse => simp [hparse]
  | misuse hparse => simp [hparse]
  | failed hparse hnone hending => simp [hparse, hnone, hending]
  | printed hparse ht hpath =>
      exact iff_of_true rfl (.inr ⟨_, _, _, hparse, ht, fun path h => absurd h (hpath path)⟩)
  | unwritten hparse ht hpath hwrite =>
      refine iff_of_false nofun ?_
      rintro (hhelp | ⟨document', o', t', hparse', ht', hwrites⟩)
      · cases hparse.symm.trans hhelp
      · cases hparse.symm.trans hparse'
        cases ht.unique ht'
        obtain ⟨fs', hwrite'⟩ := hwrites _ hpath
        cases hwrite.symm.trans hwrite'
  | written hparse ht hpath hwrite =>
      refine iff_of_true rfl (.inr ⟨_, _, _, hparse, ht, ?_⟩)
      intro path h
      cases hpath.unique h
      exact ⟨_, hwrite⟩

theorem nothing (h : Course env fs args out) (hending : out.ending ≠ .exit 0) :
    out.files = fs ∧ out.stdout = [] := by
  cases h with
  | misuse | failed | unwritten => exact ⟨rfl, rfl⟩
  | help | printed | written => exact absurd rfl hending

theorem result (h : Course env fs args out) (hending : out.ending = .exit 0)
    (hhelp : Options.parse args ≠ .error .help) :
    ∃ document o t, Options.parse args = .ok (document, o) ∧ Produces env fs document o t ∧
      (∀ path, o.Sends document path →
        fs.Replaced out.files env.cwd (Path.ofText path) t ∧ out.stdout = []) ∧
      ((∀ path, ¬o.Sends document path) → out.files = fs ∧ out.stdout = t) := by
  cases h with
  | help hparse => exact absurd hparse hhelp
  | misuse | unwritten => cases hending
  | failed hparse hnone hfailed => exact absurd hending hfailed
  | printed hparse ht hpath =>
      exact ⟨_, _, _, hparse, ht, fun path h => absurd h (hpath path), fun _ => ⟨rfl, rfl⟩⟩
  | written hparse ht hpath hwrite =>
      refine ⟨_, _, _, hparse, ht, ?_, fun hnone => absurd hpath (hnone _)⟩
      intro path h
      cases hpath.unique h
      exact ⟨replaced_of_write hwrite, rfl⟩

end Course

/-- A call ends with status zero exactly if it asks for help, or there is a result and it can be put
where it belongs. Then the result is in that one place; otherwise nothing is printed or written. -/
theorem run_all_or_nothing (env : Environment) (fs : Files) (args : List Text) :
    let out := run env fs args
    (out.ending = .exit 0 ↔ Options.parse args = .error .help ∨
      ∃ document o t, Options.parse args = .ok (document, o) ∧ Produces env fs document o t ∧
        ∀ path, o.Sends document path →
          ∃ fs', fs.write env.cwd (Path.ofText path) (Text.Utf8.encode t) = .ok fs') ∧
    (out.ending ≠ .exit 0 → out.files = fs ∧ out.stdout = []) ∧
    (out.ending = .exit 0 → Options.parse args ≠ .error .help →
      ∃ document o t, Options.parse args = .ok (document, o) ∧ Produces env fs document o t ∧
        (∀ path, o.Sends document path →
          fs.Replaced out.files env.cwd (Path.ofText path) t ∧ out.stdout = []) ∧
        ((∀ path, ¬o.Sends document path) → out.files = fs ∧ out.stdout = t)) := by
  have hcourse := run_course env fs args
  exact ⟨hcourse.ending_iff, hcourse.nothing, hcourse.result⟩

/-- A document is rewritten in place. It is left alone if it has a region that was never opened, and
also if a pattern of the settings is refused or the document may not be written. -/
theorem run_all_or_nothing_in_place :
    let env : Environment := ⟨⟨['/'], [['w']]⟩, none, none, [], none⟩
    let files (settings source : String) (access : Access) : Files :=
      ⟨[([['w'], "latexbreak.config".toList], .file (Text.Utf8.encode settings.toList)),
        ([['w'], ['a']], .file (Text.Utf8.encode source.toList) access)]⟩
    let marks := "begin_protect: <\nend_protect: >"
    let good := files marks "A. B." {}
    let call (fs : Files) : Outcome := run env fs [['-', 'i'], ['a']]
    ((call good).ending = .exit 0 ∧ ∃ o t, Produces env good ['a'] o t ∧
      good.Replaced (call good).files env.cwd (Path.ofText ['a']) t ∧ (call good).stdout = []) ∧
    ∀ fs ∈ [files marks "A.\n>" {}, files "begin_protect: a{4294967295}" "A. B." {},
        files marks "A. B." { write := false }],
      (call fs).ending ≠ .exit 0 ∧ (call fs).files = fs ∧ (call fs).stdout = [] := by
  intro env files marks good call
  have hparse : Options.parse [['-', 'i'], ['a']] =
      .ok (['a'], { document := some ['a'], inPlace := true }) := by decide +kernel
  have hgood : (call good).ending = .exit 0 := by decide +kernel
  have hbad : ∀ fs ∈ [files marks "A.\n>" {}, files "begin_protect: a{4294967295}" "A. B." {},
      files marks "A. B." { write := false }], (call fs).ending ≠ .exit 0 := by decide +kernel
  refine ⟨⟨hgood, ?_⟩, fun fs hfs => ⟨hbad fs hfs, (run_all_or_nothing env fs _).2.1 (hbad fs hfs)⟩⟩
  obtain ⟨document, o, t, hparse', ht, hsent, -⟩ :=
    (run_all_or_nothing env good _).2.2 hgood (by rw [hparse]; nofun)
  cases hparse.symm.trans hparse'
  exact ⟨_, t, ht, hsent ['a'] (.inl ⟨rfl, rfl⟩)⟩

end TexReflow.Command
