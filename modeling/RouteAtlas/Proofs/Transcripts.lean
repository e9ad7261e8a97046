import RouteAtlas.Command.Run

/-!
What runs leave behind. Messages and the log go to standard error alone. A message may be impossible
to show, and then the run ends as it would after anything that nobody expected.
-/

namespace RouteAtlas

variable {c : Console} {t t' : Transcript} {e : Effect} {es : List Effect} {f : CommandFault}

/-- Is it a message or an entry of the log? -/
def Effect.isRemark : Effect → Bool
  | .say _ | .log _ => true
  | _ => false

/-- Is it an entry of the log, or a message for those who want to hear of everything? -/
def Effect.isAside : Effect → Bool
  | .say m => m.kind = .debug
  | .log _ => true
  | _ => false

theorem Effect.isRemark_of_isAside (h : e.isAside = true) : e.isRemark = true := by
  cases e with
  | say => rfl
  | log => rfl
  | _ => cases h

namespace Console

/-- The message can be shown. -/
def Shows (c : Console) (m : Message) : Prop := ∃ s, c.messageText m = .ok s

/-- All messages among the effects can be shown. -/
def ShowsAll (c : Console) (es : List Effect) : Prop := ∀ m, .say m ∈ es → c.Shows m

theorem showsAll_append {es' : List Effect} :
    c.ShowsAll (es ++ es') ↔ c.ShowsAll es ∧ c.ShowsAll es' := by
  simp [ShowsAll, or_imp, forall_and]

theorem showsAll_cons : c.ShowsAll (e :: es) ↔ c.ShowsAll [e] ∧ c.ShowsAll es :=
  @showsAll_append c [e] es

theorem showsAll_singleton {m : Message} : c.ShowsAll [.say m] ↔ c.Shows m := by
  simp [ShowsAll]

end Console

namespace Transcript

/-- The same data on standard output, and the same files. -/
def Agrees (t t' : Transcript) : Prop := t'.stdout = t.stdout ∧ t'.files = t.files

theorem Agrees.trans {t'' : Transcript} (h : Agrees t t') (h' : Agrees t' t'') : Agrees t t'' :=
  ⟨h'.1.trans h.1, h'.2.trans h.2⟩

theorem Agrees.eq {stdout stderr : String} {files : FileTree}
    (h : Agrees ⟨stdout, stderr, files⟩ t) : t = ⟨stdout, t.stderr, files⟩ := by
  obtain ⟨rfl, rfl⟩ := h
  rfl

theorem agrees_of_say {m : Message} (h : t.say c m = .ok t') : Agrees t t' := by
  unfold say at h
  cases hm : c.messageText m with
  | ok s =>
    rw [hm] at h
    cases h
    exact ⟨rfl, rfl⟩
  | error f =>
    rw [hm] at h
    cases h

theorem exists_say {m : Message} (h : c.Shows m) : ∃ t', t.say c m = .ok t' := by
  obtain ⟨s, hs⟩ := h
  exact ⟨_, by rw [say, hs]; rfl⟩

theorem exists_error_of_say {m : Message} (h : ¬c.Shows m) : ∃ f, t.say c m = .error f := by
  cases hm : c.messageText m with
  | ok s => exact absurd ⟨s, hm⟩ h
  | error f => exact ⟨f, by rw [say, hm]; rfl⟩

/-- A remark changes neither data nor files, and comes about if it can be shown. -/
theorem perform_remark (h : e.isRemark = true) :
    Agrees t (t.perform c e).1 ∧ ((t.perform c e).2 = none ↔ c.ShowsAll [e]) := by
  cases e with
  | say m =>
    rw [Console.showsAll_singleton, perform]
    by_cases hm : c.Shows m
    · obtain ⟨t', ht'⟩ := exists_say (t := t) hm
      rw [ht']
      exact ⟨agrees_of_say ht', iff_of_true rfl hm⟩
    · obtain ⟨f, hf⟩ := exists_error_of_say (t := t) hm
      rw [hf]
      exact ⟨⟨rfl, rfl⟩, iff_of_false nofun hm⟩
  | log l => exact ⟨⟨rfl, rfl⟩, iff_of_true rfl (by simp [Console.ShowsAll])⟩
  | _ => cases h

theorem performAll_append {es' : List Effect} : performAll c t (es ++ es') =
    match performAll c t es with
    | (t, none) => performAll c t es'
    | (t, some f) => (t, some f) := by
  induction es generalizing t with
  | nil => rfl
  | cons e es ih =>
    rw [List.cons_append, performAll, performAll]
    obtain ⟨t₁, f⟩ := t.perform c e
    cases f with
    | none => exact ih
    | some f => rfl

/-- Nor do remarks one after the other. -/
theorem performAll_remarks (h : ∀ e ∈ es, e.isRemark = true) :
    Agrees t (performAll c t es).1 ∧ ((performAll c t es).2 = none ↔ c.ShowsAll es) := by
  induction es generalizing t with
  | nil => exact ⟨⟨rfl, rfl⟩, iff_of_true rfl (by simp [Console.ShowsAll])⟩
  | cons e es ih =>
    obtain ⟨he, hes⟩ := List.forall_mem_cons.mp h
    obtain ⟨hagrees, hshown⟩ := perform_remark (c := c) (t := t) he
    rw [performAll, Console.showsAll_cons, ← hshown]
    generalize t.perform c e = done at hagrees
    obtain ⟨t₁, f⟩ := done
    cases f with
    | none =>
      obtain ⟨hrest, hall⟩ := ih (t := t₁) hes
      exact ⟨hagrees.trans hrest, by rw [hall]; exact (and_iff_right rfl).symm⟩
    | some f => exact ⟨hagrees, iff_of_false nofun fun hboth => by cases hboth.1⟩

theorem exists_performAll (h : ∀ e ∈ es, e.isRemark = true) (hshown : c.ShowsAll es) :
    ∃ t', performAll c t es = (t', none) ∧ Agrees t t' := by
  obtain ⟨hagrees, hnone⟩ := performAll_remarks (c := c) (t := t) h
  exact ⟨_, Prod.ext rfl (hnone.mpr hshown), hagrees⟩

end Transcript

namespace Outcome

/-- The exit code is this one if all is shown, and if not, that of what nobody expected. -/
def EndsWith (o : Outcome) (shown : Prop) (code : Nat) : Prop :=
  (shown → o.exit = code) ∧ (¬shown → o.exit = ExitCode.failure.number)

theorem EndsWith.of_shown {o : Outcome} {shown : Prop} {code : Nat} (hs : shown)
    (h : o.exit = code) : o.EndsWith shown code := ⟨fun _ => h, fun hn => absurd hs hn⟩

theorem EndsWith.of_not_shown {o : Outcome} {shown : Prop} {code : Nat} (hn : ¬shown)
    (h : o.exit = ExitCode.failure.number) : o.EndsWith shown code :=
  ⟨fun hs => absurd hs hn, fun _ => h⟩

theorem unexpected_eq (c : Console) (t : Transcript) (m : String) :
    (unexpected c t m).exit = ExitCode.failure.number ∧ t.Agrees (unexpected c t m).transcript := by
  unfold unexpected
  cases hs : t.say c ⟨.error, "Unexpected error: " ++ m⟩ with
  | ok t' => exact ⟨rfl, Transcript.agrees_of_say hs⟩
  | error f => exact ⟨rfl, rfl, rfl⟩

/-- After a fault nothing but a message is given out. -/
theorem agrees_ofFault (c : Console) (t : Transcript) (f : CommandFault) :
    t.Agrees (ofFault c t f).transcript := by
  unfold ofFault
  split
  next => exact (unexpected_eq c t (f.message c.host)).2
  next =>
    split
    next t' ht' => exact Transcript.agrees_of_say ht'
    next m _ => exact (unexpected_eq c t (m.message c.host)).2

/-- The exit code of a fault counts if its message can be shown. -/
theorem endsWith_ofFault {code : ExitCode} (c : Console) (t : Transcript)
    (hcode : f.exitCode? = some code) :
    (ofFault c t f).EndsWith (c.Shows ⟨.error, f.message c.host⟩) code.number := by
  rw [ofFault, hcode]
  by_cases hshown : c.Shows ⟨.error, f.message c.host⟩
  · obtain ⟨t', ht'⟩ := Transcript.exists_say (t := t) hshown
    exact .of_shown hshown (by simp only [ht'])
  · obtain ⟨m, hm⟩ := Transcript.exists_error_of_say (t := t) hshown
    simp only [hm]
    exact .of_not_shown hshown (unexpected_eq c t (m.message c.host)).1

end Outcome

namespace Course

variable {files files' : FileTree} {text : String} {p : FilePath} {m : Message}

/-- Remarks that cannot all be shown keep a command from everything that follows them. -/
theorem run_of_not_shows (files : FileTree) (rest : List Effect)
    (result : Except CommandFault Unit) (hes : ∀ e ∈ es, e.isRemark = true)
    (hshown : ¬c.ShowsAll es) :
    let o := (Course.mk (es ++ rest) result).run c files
    o.exit = ExitCode.failure.number ∧ o.transcript.stdout = "" ∧ o.transcript.files = files := by
  dsimp only
  obtain ⟨hagrees, hnone⟩ :=
    Transcript.performAll_remarks (c := c) (t := ⟨"", "", files⟩) hes
  rw [run, Transcript.performAll_append]
  generalize Transcript.performAll c ⟨"", "", files⟩ es = done at hagrees hnone
  obtain ⟨t, fault⟩ := done
  cases fault with
  | none => exact absurd (hnone.mp rfl) hshown
  | some fault =>
    obtain ⟨hexit, htranscript⟩ := Outcome.unexpected_eq c t (fault.message c.host)
    exact ⟨hexit, hagrees.trans htranscript⟩

/-- A command that gives up after remarks has put out no data and changed no file. -/
theorem transcript_run_of_error (hes : ∀ e ∈ es, e.isRemark = true) :
    let o := (Course.mk es (.error f)).run c files
    o.transcript.stdout = "" ∧ o.transcript.files = files := by
  by_cases hshown : c.ShowsAll es
  · obtain ⟨t, ht, hagrees⟩ := Transcript.exists_performAll (t := ⟨"", "", files⟩) hes hshown
    dsimp only
    rw [run, ht]
    exact hagrees.trans (Outcome.agrees_ofFault c t f)
  · rw [← List.append_nil es]
    exact (run_of_not_shows files [] (.error f) hes hshown).2

/-- It ends with the exit code of its fault if that and the remarks can be shown. -/
theorem endsWith_run_of_error {code : ExitCode} (hes : ∀ e ∈ es, e.isRemark = true)
    (hcode : f.exitCode? = some code) :
    ((Course.mk es (.error f)).run c files).EndsWith
      (c.ShowsAll es ∧ c.Shows ⟨.error, f.message c.host⟩) code.number := by
  by_cases hshown : c.ShowsAll es
  · obtain ⟨t, ht, -⟩ := Transcript.exists_performAll (t := ⟨"", "", files⟩) hes hshown
    rw [run, ht, and_iff_right hshown]
    exact Outcome.endsWith_ofFault c t hcode
  · have hexit := (run_of_not_shows files [] (.error f) hes hshown).1
    rw [List.append_nil] at hexit
    exact .of_not_shown (mt And.left hshown) hexit

/-- A command that puts out data after remarks leaves the files alone, and if the remarks can be
shown, it puts out those data and nothing else. -/
theorem run_data (hes : ∀ e ∈ es, e.isRemark = true) :
    let o := (Course.mk (es ++ [.data text]) (.ok ())).run c files
    o.transcript.files = files ∧ o.EndsWith (c.ShowsAll es) 0 ∧
      (c.ShowsAll es → o.transcript.stdout = text) := by
  by_cases hshown : c.ShowsAll es
  · obtain ⟨t, ht, hagrees⟩ := Transcript.exists_performAll (t := ⟨"", "", files⟩) hes hshown
    have hrun : (Course.mk (es ++ [.data text]) (.ok ())).run c files =
        ⟨0, ⟨"" ++ text, t.stderr, files⟩, none⟩ := by
      rw [run, Transcript.performAll_append, ht, hagrees.eq]
      rfl
    rw [hrun, String.empty_append]
    exact ⟨rfl, .of_shown hshown rfl, fun _ => rfl⟩
  · obtain ⟨hexit, -, hfiles⟩ := run_of_not_shows files [.data text] (.ok ()) hes hshown
    exact ⟨hfiles, .of_not_shown hshown hexit, fun h => absurd h hshown⟩

/-- The transcript after remarks and a file that could be written. -/
theorem exists_performAll_write (hes : ∀ e ∈ es, e.isRemark = true) (hshown : c.ShowsAll es)
    (hwrite : files.write p text.toUTF8.toList c.host = (files', none)) :
    ∃ stderr, Transcript.performAll c ⟨"", "", files⟩ (es ++ [.write p text, .say m]) =
      Transcript.performAll c ⟨"", stderr, files'⟩ [.say m] := by
  obtain ⟨t, ht, hagrees⟩ := Transcript.exists_performAll (t := ⟨"", "", files⟩) hes hshown
  refine ⟨t.stderr, ?_⟩
  have hperform : Transcript.perform c ⟨"", t.stderr, files⟩ (.write p text) =
      (⟨"", t.stderr, files'⟩, none) := by
    simp only [Transcript.perform, hwrite]
    rfl
  rw [Transcript.performAll_append, ht, hagrees.eq]
  show Transcript.performAll c _ [.write p text, .say m] = _
  rw [Transcript.performAll, hperform]

/-- A command that writes a file after remarks puts out no data. If the remarks can be shown, it
changes no file but by that, and what it says in the end is all that can still go wrong. -/
theorem run_write (hes : ∀ e ∈ es, e.isRemark = true)
    (hwrite : files.write p text.toUTF8.toList c.host = (files', none)) :
    let o := (Course.mk (es ++ [.write p text, .say m]) (.ok ())).run c files
    o.transcript.stdout = "" ∧ o.EndsWith (c.ShowsAll es ∧ c.Shows m) 0 ∧
      (c.ShowsAll es → o.transcript.files = files') := by
  dsimp only
  by_cases hshown : c.ShowsAll es
  · obtain ⟨stderr, hall⟩ := exists_performAll_write (m := m) hes hshown hwrite
    have hsay : ∀ e ∈ [Effect.say m], e.isRemark = true := by simp [Effect.isRemark]
    have hlast := Transcript.performAll_remarks (c := c) (t := ⟨"", stderr, files'⟩) hsay
    rw [Console.showsAll_singleton] at hlast
    -- What is left after the writing is one message, and the files are not touched any more.
    rw [run, hall, and_iff_right hshown]
    generalize Transcript.performAll c ⟨"", stderr, files'⟩ [.say m] = done at hlast
    obtain ⟨t, fault⟩ := done
    obtain ⟨⟨hstdout, hfiles⟩, hnone⟩ := hlast
    cases fault with
    | none => exact ⟨hstdout, .of_shown (hnone.mp rfl) rfl, fun _ => hfiles⟩
    | some fault =>
      obtain ⟨hexit, hout, htree⟩ := Outcome.unexpected_eq c t (fault.message c.host)
      have hm : ¬c.Shows m := fun h => nomatch hnone.mpr h
      exact ⟨hout.trans hstdout, .of_not_shown hm hexit, fun _ => htree.trans hfiles⟩
  · obtain ⟨hexit, hstdout, -⟩ := run_of_not_shows files [.write p text, .say m] (.ok ())
      hes hshown
    exact ⟨hstdout, .of_not_shown (mt And.left hshown) hexit, fun h => absurd h hshown⟩

end Course

end RouteAtlas
