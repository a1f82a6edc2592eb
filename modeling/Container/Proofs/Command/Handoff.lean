import Container.Engine.Start
import Container.Proofs.Command.Task

set_option autoImplicit false

/-!
# Handing the process over

The process that created a container becomes its program, at the top of the file system. All texts
are looked through for zero bytes before, the arguments first and then the environment, so a process
that cannot hand them over has done nothing and stays where it is. The environment is that of the
program, with a prompt behind it where none is set.

## Main definitions

* `Engine.FirstZero` — the first of some texts that has a zero byte, and where that is.
* `Engine.missingPrompt` — the setting of the prompt, where there is none yet.
* `HandoffRun` — what is known of handing a process over.

## Main results

* `Engine.handoffEnvironment_idempotent` — a prompt that is set is not set again.
* `Engine.firstZeroByte?_eq_some_iff` — the text that is complained about.
* `Engine.handoff?_eq_ok_iff` — what is handed over, and when it can be.
* `Engine.handoff_run` — what is known of every process that is handed over.
-/

namespace Container

variable {σ : Type}

namespace Engine

/-! ## The environment -/

/-- The setting of the prompt that is missing in an environment. -/
def missingPrompt (environment : List String) : List String :=
  if ∃ setting ∈ environment, "PS1=".toList <+: setting.toList then [] else ["PS1=shell> "]

/-- A setting is that of the prompt by how it begins. -/
theorem setsPrompt_iff {setting : String} :
    setsPrompt setting = true ↔ "PS1=".toList <+: setting.toList :=
  String.startsWith_string_iff

/-- **An environment is handed over as it is**, with the prompt behind it that is missing. -/
theorem handoffEnvironment_eq (environment : List String) :
    handoffEnvironment environment = environment ++ missingPrompt environment := by
  simp only [handoffEnvironment, missingPrompt, List.any_eq_true, setsPrompt_iff]
  split
  · exact (List.append_nil _).symm
  · rfl

/-- Every environment is the first part of the one that is handed over for it. -/
theorem prefix_handoffEnvironment (environment : List String) :
    environment <+: handoffEnvironment environment :=
  ⟨_, (handoffEnvironment_eq environment).symm⟩

/-- In what is handed over, a prompt is set. -/
theorem exists_prompt (environment : List String) :
    ∃ setting ∈ handoffEnvironment environment, "PS1=".toList <+: setting.toList := by
  rw [handoffEnvironment_eq, missingPrompt]
  split
  · rename_i hset
    simpa using hset
  · exact ⟨"PS1=shell> ", by simp, by decide⟩

/-- **A prompt that is set is not set again.** -/
theorem handoffEnvironment_idempotent (environment : List String) :
    handoffEnvironment (handoffEnvironment environment) = handoffEnvironment environment := by
  rw [handoffEnvironment_eq (handoffEnvironment environment), missingPrompt,
    if_pos (exists_prompt environment), List.append_nil]

/-! ## Zero bytes -/

/-- A text is the first one with a zero byte, of which the first one is at an offset. -/
def FirstZero (texts : List String) (text : String) (offset : Nat) : Prop :=
  ∃ before after front rest, texts = before ++ text :: after ∧
    (∀ other ∈ before, (0 : UInt8) ∉ Utf8.bytes other) ∧
    Utf8.bytes text = front ++ 0 :: rest ∧ 0 ∉ front ∧ front.length = offset

/-- There is no place of a zero byte exactly if no byte is zero. -/
theorem findIdx?_zero_eq_none_iff {bs : Bytes} : bs.findIdx? (· = 0) = none ↔ 0 ∉ bs := by
  rw [List.findIdx?_eq_none_iff]
  constructor
  · intro h hmem
    simpa using h 0 hmem
  · intro h b hb
    exact decide_eq_false fun hzero => h (hzero ▸ hb)

/-- The place of the first zero byte. -/
theorem findIdx?_zero_eq_some_iff {bs : Bytes} {offset : Nat} :
    bs.findIdx? (· = 0) = some offset ↔
      ∃ front rest, bs = front ++ 0 :: rest ∧ 0 ∉ front ∧ front.length = offset := by
  constructor
  · intro h
    obtain ⟨hlt, hzero, hearlier⟩ := List.findIdx?_eq_some_iff_getElem.mp h
    have hsplit : bs = bs.take offset ++ bs[offset] :: bs.drop (offset + 1) := by
      rw [← List.drop_eq_getElem_cons hlt, List.take_append_drop]
    rw [of_decide_eq_true hzero] at hsplit
    refine ⟨_, _, hsplit, ?_, List.length_take_of_le (Nat.le_of_lt hlt)⟩
    intro hmem
    obtain ⟨i, hi, hget⟩ := List.mem_take_iff_getElem.mp hmem
    exact hearlier i (by omega) (decide_eq_true hget)
  · rintro ⟨front, rest, rfl, hfront, rfl⟩
    have hnone : front.findIdx? (· = 0) = none := findIdx?_zero_eq_none_iff.mpr hfront
    simp [List.findIdx?_append, hnone, List.findIdx?_cons]

/-- No text is complained about exactly if none has a zero byte. -/
theorem firstZeroByte?_eq_none_iff {texts : List String} :
    firstZeroByte? texts = none ↔ ∀ text ∈ texts, (0 : UInt8) ∉ Utf8.bytes text := by
  simp only [firstZeroByte?, List.findSome?_eq_none_iff, Option.map_eq_none_iff,
    findIdx?_zero_eq_none_iff]

/-- **The text that is complained about** is the first one with a zero byte. -/
theorem firstZeroByte?_eq_some_iff {texts : List String} {text : String} {offset : Nat} :
    firstZeroByte? texts = some (text, offset) ↔ FirstZero texts text offset := by
  simp only [firstZeroByte?, FirstZero, List.findSome?_eq_some_iff, Option.map_eq_some_iff,
    Option.map_eq_none_iff, findIdx?_zero_eq_some_iff, findIdx?_zero_eq_none_iff, Prod.mk.injEq]
  constructor
  · rintro ⟨before, _, after, rfl, ⟨_, ⟨front, rest, hbytes, hfront, rfl⟩, rfl, rfl⟩, hbefore⟩
    exact ⟨before, after, front, rest, rfl, hbefore, hbytes, hfront, rfl⟩
  · rintro ⟨before, after, front, rest, rfl, hbefore, hbytes, hfront, rfl⟩
    exact ⟨before, text, after, rfl, ⟨_, ⟨front, rest, hbytes, hfront, rfl⟩, rfl, rfl⟩, hbefore⟩

/-- The missing prompt has no zero byte, so nothing but the texts of the program is complained
about. -/
theorem firstZeroByte?_handoffEnvironment (arguments environment : List String) :
    firstZeroByte? (arguments ++ handoffEnvironment environment) =
      firstZeroByte? (arguments ++ environment) := by
  have hprompt : firstZeroByte? (missingPrompt environment) = none := by
    rw [firstZeroByte?_eq_none_iff, missingPrompt]
    split
    · simp
    · decide
  rw [handoffEnvironment_eq, ← List.append_assoc, firstZeroByte?, List.findSome?_append]
  exact (congrArg (Option.or _) hprompt).trans (Option.or_none)

/-! ## What is handed over -/

section Handoff

variable {program : Program} {handoff : Handoff}

/-- Where there are arguments, only a zero byte keeps them from being handed over. -/
theorem handoff?_cons {path : String} {later : List String}
    (h : program.arguments = path :: later) :
    handoff? program =
      match firstZeroByte? (program.arguments ++ program.environment) with
      | some (text, offset) => .error (.zeroByte text offset)
      | none => .ok ⟨path, program.arguments, handoffEnvironment program.environment⟩ := by
  rw [← firstZeroByte?_handoffEnvironment, handoff?, h]
  dsimp only
  cases firstZeroByte? (path :: later ++ handoffEnvironment program.environment) <;> rfl

/-- Without arguments nothing is handed over. -/
theorem handoff?_nil (h : program.arguments = []) : handoff? program = .error .noArguments := by
  rw [handoff?, h]
  rfl

/-- The first text with a zero byte is complained about. -/
theorem handoff?_of_firstZero {text : String} {offset : Nat} (hargs : program.arguments ≠ [])
    (h : FirstZero (program.arguments ++ program.environment) text offset) :
    handoff? program = .error (.zeroByte text offset) := by
  obtain ⟨path, later, hcons⟩ := List.exists_cons_of_ne_nil hargs
  rw [handoff?_cons hcons, firstZeroByte?_eq_some_iff.mpr h]

/-- **What is handed over, and when it can be.** -/
theorem handoff?_eq_ok_iff : handoff? program = .ok handoff ↔
    program.arguments.head? = some handoff.program ∧ handoff.arguments = program.arguments ∧
    handoff.environment = program.environment ++ missingPrompt program.environment ∧
    ∀ text ∈ program.arguments ++ program.environment, (0 : UInt8) ∉ Utf8.bytes text := by
  obtain ⟨path, arguments, environment⟩ := handoff
  rw [← firstZeroByte?_eq_none_iff, ← handoffEnvironment_eq]
  cases hargs : program.arguments with
  | nil => simp [handoff?_nil hargs]
  | cons first later =>
    rw [handoff?_cons hargs, hargs]
    cases firstZeroByte? (first :: later ++ program.environment) with
    | some => simp
    | none => simp [eq_comm]

/-- Something can be handed over if there are arguments and no text has a zero byte. -/
theorem exists_handoff?_iff : (∃ handoff, handoff? program = .ok handoff) ↔
    program.arguments ≠ [] ∧
    ∀ text ∈ program.arguments ++ program.environment, (0 : UInt8) ∉ Utf8.bytes text := by
  simp only [handoff?_eq_ok_iff]
  constructor
  · rintro ⟨handoff, hhead, -, -, hfree⟩
    exact ⟨fun hnil => by simp [hnil] at hhead, hfree⟩
  · rintro ⟨hargs, hfree⟩
    obtain ⟨path, later, hcons⟩ := List.exists_cons_of_ne_nil hargs
    exact ⟨⟨path, _, _⟩, by rw [hcons, List.head?_cons], rfl, rfl, hfree⟩

end Handoff

/-! ## The run -/

section Run

variable {sys : System σ} {engine : Engine} {world : σ}

/-- What cannot be handed over is found out before anything is done. -/
theorem start_of_fault {fault : ExecFault} (h : handoff? engine.identity.program = .error fault) :
    engine.start (Chronicle.system sys) (.start world) =
      (.error (.failed (.exec fault)), .start world) := by
  rw [start, h]
  rfl

/-- Entering a directory as the first thing is all that is written down. -/
theorem changeDir_start (path : Path) :
    changeDir (Chronicle.system sys) path (.start world) =
      ((sys.changeDir path world).1.mapError fun errno => .failed (.chdir path errno),
        ⟨(sys.changeDir path world).2, [⟨.changeDir path, world⟩]⟩) := by
  rw [changeDir, Act.run_call]
  rfl

/-- Where it cannot be entered, nothing more is done. -/
theorem start_of_refused {handoff : Handoff} {errno : Errno}
    (h : handoff? engine.identity.program = .ok handoff)
    (hrefused : (sys.changeDir "/" world).1 = .error errno) :
    engine.start (Chronicle.system sys) (.start world) =
      (.error (.failed (.chdir "/" errno)),
        ⟨(sys.changeDir "/" world).2, [⟨.changeDir "/", world⟩]⟩) := by
  rw [start, h]
  simp only [Act.run_bind, changeDir_start, hrefused, mapError_error]

/-- A call whose answer leads to nothing more leaves the world as it made it. -/
theorem snd_bind_of_idle {τ ν : Type} (call : StateM τ ν) {next : ν → Act τ Unit}
    (h : ∀ answer s, (next answer s).2 = s) (s : τ) :
    ((liftM call >>= next : Act τ Unit) s).2 = (call s).2 := by
  rw [Act.run_bind, Act.run_lift]
  exact h _ _

/-- Otherwise the process is handed over, and whatever is answered to that, nothing is done after
it. -/
theorem deeds_start {handoff : Handoff} (h : handoff? engine.identity.program = .ok handoff)
    (hentered : (sys.changeDir "/" world).1 = .ok ()) :
    ∃ event, (engine.start (Chronicle.system sys) (.start world)).2.deeds =
      [.changeDir "/", .report event, .execute handoff] := by
  rw [start, h]
  dsimp only
  rw [Act.run_bind, changeDir_start, hentered, mapError_ok]
  dsimp only
  rw [Act.run_bind, Act.run_lift]
  exact ⟨_, congrArg Chronicle.deeds (snd_bind_of_idle _ (by rintro (_ | errno) c <;> rfl) _)⟩

/-- A process is handed over if its texts can be, and the top of the file system can be entered. -/
theorem execute_mem_deeds_start_iff {handoff : Handoff} :
    .execute handoff ∈ (engine.start (Chronicle.system sys) (.start world)).2.deeds ↔
      handoff? engine.identity.program = .ok handoff ∧ (sys.changeDir "/" world).1 = .ok () := by
  cases hfound : handoff? engine.identity.program with
  | error fault =>
    rw [start_of_fault hfound]
    simp [Chronicle.deeds, Chronicle.start]
  | ok found =>
    rcases hdir : (sys.changeDir "/" world).1 with errno | ⟨⟩
    · rw [start_of_refused hfound hdir]
      simp [Chronicle.deeds]
    · obtain ⟨event, hdeeds⟩ := deeds_start hfound hdir
      rw [hdeeds]
      simp [eq_comm]

end Run
end Engine

open Engine

/-- What is known of handing a process over to its program. -/
structure HandoffRun (sys : System σ) (program : Program) (world : σ)
    (ended : Except Stop Unit × Chronicle σ) : Prop where
  /-- It comes to that exactly if there is a program, no text has a zero byte, and the top of the
  file system can be entered. -/
  reached : (∃ handoff, .execute handoff ∈ ended.2.deeds) ↔ program.arguments ≠ [] ∧
    (∀ text ∈ program.arguments ++ program.environment, (0 : UInt8) ∉ Utf8.bytes text) ∧
    (sys.changeDir "/" world).1 = .ok ()
  /-- What is handed over are the arguments, of which the first one is the program, and the
  environment with the prompt that is missing in it. That is done once, at the top of the file
  system. -/
  handed : ∀ handoff, .execute handoff ∈ ended.2.deeds →
    program.arguments.head? = some handoff.program ∧ handoff.arguments = program.arguments ∧
    handoff.environment = program.environment ++ missingPrompt program.environment ∧
    ∃ event, ended.2.deeds = [.changeDir "/", .report event, .execute handoff]
  /-- Where there is no program, that is the error, and nothing is done. -/
  noArguments : program.arguments = [] →
    ended = (.error (.failed (.exec .noArguments)), .start world)
  /-- Otherwise, where a text has a zero byte, the error names the first such text and the place of
  its first zero byte, and nothing is done. -/
  zeroByte : program.arguments ≠ [] →
    (∃ text ∈ program.arguments ++ program.environment, (0 : UInt8) ∈ Utf8.bytes text) →
    ∃ text offset, FirstZero (program.arguments ++ program.environment) text offset ∧
      ended = (.error (.failed (.exec (.zeroByte text offset))), .start world)

namespace Engine

/-- **How a process is handed over**: all texts are looked through first, the arguments before the
environment, then the top of the file system is entered, and then the program is handed its
arguments and its environment, to which at most a prompt is added. Looking for a prompt once more
adds nothing.

**Proof sketch.** What there is to hand over is found before any call is made, so where nothing is
found the run is over at once, with the reason and without a deed (`start_of_fault`). Nothing is
found where there is no program (`handoff?_nil`) and where a text has a zero byte, and the first
such text is the one that is named (`firstZeroByte?_eq_some_iff`, `handoff?_of_firstZero`).
Otherwise what is found is made of the texts of the program alone (`handoff?_eq_ok_iff`), and the
program is executed exactly if the top of the file system was entered
(`execute_mem_deeds_start_iff`), after which nothing else is done (`deeds_start`). -/
theorem handoff_run (sys : System σ) (engine : Engine) (world : σ) :
    (∀ environment, environment <+: handoffEnvironment environment ∧
      handoffEnvironment (handoffEnvironment environment) = handoffEnvironment environment) ∧
    HandoffRun sys engine.identity.program world
      (engine.start (Chronicle.system sys) (.start world)) := by
  refine ⟨fun environment => ⟨prefix_handoffEnvironment environment,
    handoffEnvironment_idempotent environment⟩, ?_, ?_, ?_, ?_⟩
  · simp only [execute_mem_deeds_start_iff, exists_and_right, exists_handoff?_iff, and_assoc]
  · intro handoff hmem
    obtain ⟨hfound, hentered⟩ := execute_mem_deeds_start_iff.mp hmem
    obtain ⟨hhead, harguments, henvironment, -⟩ := handoff?_eq_ok_iff.mp hfound
    exact ⟨hhead, harguments, henvironment, deeds_start hfound hentered⟩
  · intro hnone
    exact start_of_fault (handoff?_nil hnone)
  · rintro hargs ⟨zeroed, hmem, hzero⟩
    cases hfirst : firstZeroByte?
        (engine.identity.program.arguments ++ engine.identity.program.environment) with
    | none => exact absurd hzero (firstZeroByte?_eq_none_iff.mp hfirst zeroed hmem)
    | some found =>
      have hfirst := firstZeroByte?_eq_some_iff.mp hfirst
      exact ⟨_, _, hfirst, start_of_fault (handoff?_of_firstZero hargs hfirst)⟩

end Engine
end Container
