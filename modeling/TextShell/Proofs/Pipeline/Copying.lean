import TextShell.Proofs.Files.Input
import TextShell.Proofs.Programs

/-!
# Text that crosses files and programs

A text leaves the shell as its encoding, on the standard input of a program, and comes in by the
lenient reading, from a file or from the output of a program.  Nothing in between looks at line ends,
null characters or byte order marks, so the way out and back changes no text
(`Utf8.decodeLossy_encode`).

A program that copies its standard input to its standard output (`World.Copies`) therefore hands on
what it reads, as `cat` without a file does.  Put into a pipeline it adds its own launch and changes
nothing else (`run_insert_copy_of_ok`, `run_insert_copy_of_error`).

## Main Definitions

* `World.Copies` — a program that copies its standard input and ends with status zero
* `copyEvents` — the effects of a stage that is such a program
-/

namespace TextShell

/-- **A program that copies**: it can be launched with its arguments, and it ends with status zero
after writing to its standard output what came in. -/
structure World.Copies (w : World) (program : Text) (args : List Text) : Prop where
  /-- No null character is in the way. -/
  notNull : ∀ t ∈ program :: args, holdsNull t = false
  /-- Whatever comes in goes out. -/
  copies : ∀ bytes, ∃ errors, w.program program args bytes = .finished ⟨bytes, errors, 0⟩

/-- The effects of a stage whose program runs to its end with status zero. -/
def copyEvents (program : Text) (args : List Text) (input : Text) : List Event :=
  .logged (.running (.external program args)) :: launchEvents program args input 0

variable {w : World} {program : Text} {args : List Text} {text : Text}

/-! ## Files -/

/-- A file that holds the encoding of a text is read as the text. -/
theorem World.reads_of_encode {path : Text} (hpath : holdsNull path = false)
    (h : w.entry path = .content (Utf8.encode text)) : w.Reads path text :=
  ⟨hpath, _, h, (Utf8.decodeLossy_encode text).symm⟩

/-- Files that hold texts are put together as their texts. -/
theorem runCat_of_encode {files : List (Text × Text)} (hne : files ≠ [])
    (h : ∀ file ∈ files, holdsNull file.1 = false ∧
      w.entry file.1 = .content (Utf8.encode file.2)) (input : Text) :
    runCat w (files.map Prod.fst) input =
      ⟨files.map fun file => .read file.1, .ok (files.map Prod.snd).flatten⟩ := by
  have hempty : (files.map Prod.fst).isEmpty = false := by simpa using hne
  have hreads : ∀ file ∈ files, w.Reads file.1 file.2 := fun file hfile =>
    World.reads_of_encode (h file hfile).1 (h file hfile).2
  rw [runCat, hempty, if_neg Bool.false_ne_true, collectFiles_of_reads hreads]

/-! ## Programs -/

namespace World

theorem Copies.exists_ends (h : w.Copies program args) (text : Text) :
    ∃ errors, w.Ends program args text ⟨Utf8.encode text, errors, 0⟩ :=
  (h.copies (Utf8.encode text)).imp fun _ hfinished => ⟨h.notNull, hfinished⟩

/-- **A program that copies hands on what it reads.** -/
theorem Copies.run_eq (h : w.Copies program args) (text : Text) :
    (Command.external program args).run w text = ⟨launchEvents program args text 0, .ok text⟩ := by
  obtain ⟨errors, hends⟩ := h.exists_ends text
  have hrun := hends.runExternal_eq
  rwa [if_pos rfl, Utf8.decodeLossy_encode] at hrun

/-- A stage that copies comes before the others, which read what it read. -/
theorem Copies.runCommands_cons_eq (h : w.Copies program args) (text : Text) (q : List Command) :
    runCommands w text (.external program args :: q) =
      ⟨copyEvents program args text ++ (runCommands w text q).events,
        (runCommands w text q).outcome⟩ := by
  rw [runCommands, h.run_eq]
  rfl

end World

/-! ## Pipelines -/

/-- Commands that succeed come before a stage that copies, which comes before the others. -/
theorem run_insert_copy_of_ok (h : w.Copies program args) {input : Text} {p : List Command}
    (hp : (runCommands w input p).outcome = .ok text) (q : List Command) :
    runCommands w input (p ++ .external program args :: q) =
      ⟨(runCommands w input p).events ++ (copyEvents program args text ++
          (runCommands w text q).events),
        (runCommands w text q).outcome⟩ := by
  rw [runCommands_append, Run.bind_of_ok hp, h.runCommands_cons_eq]

/-- After commands that fail no stage is reached, whichever it is. -/
theorem run_insert_of_error {input : Text} {p : List Command} {f : Failure}
    (hp : (runCommands w input p).outcome = .error f) (q q' : List Command) :
    runCommands w input (p ++ q) = runCommands w input (p ++ q') := by
  rw [runCommands_append, runCommands_append, Run.bind_of_error hp, Run.bind_of_error hp]

/-- **Text crosses files and programs unchanged.**  A file that holds the encoding of a text is read
as this text, and a program that copies its standard input to its standard output makes of a text the
same text, whatever characters are in it.

So such a program may be put in anywhere in a pipeline.  If the commands before it fail, the pipeline
fails as before and does the same; if they succeed, with whatever text, the effects of the program are
put in between, and everything else is as before, the outcome included.

Files that hold encoded texts are written out by `cat` as what their bytes, one after the other, are
read as, and no byte of them is at fault. -/
theorem Pipeline.text_crosses_unchanged (w : World) :
    (∀ path text, holdsNull path = false → w.entry path = .content (Utf8.encode text) →
      w.readText path = ⟨[.read path], .ok (.ok text)⟩) ∧
    (∀ program args, w.Copies program args →
      (∀ text, (Command.external program args).run w text =
        ⟨launchEvents program args text 0, .ok text⟩) ∧
      ∀ p q : List Command, p ++ q ≠ [] → ∃ before after : Pipeline,
        ofList? (p ++ q) = some before ∧
        ofList? (p ++ .external program args :: q) = some after ∧
        (∀ f, (runCommands w [] p).outcome = .error f → after.run w = before.run w) ∧
        ∀ text, (runCommands w [] p).outcome = .ok text →
          let rest := runCommands w text q
          before.run w = ⟨(runCommands w [] p).events ++ rest.events, rest.outcome⟩ ∧
          after.run w =
            ⟨(runCommands w [] p).events ++ (copyEvents program args text ++ rest.events),
              rest.outcome⟩) ∧
    ∀ files : List (Text × Text), files ≠ [] →
      (∀ file ∈ files, holdsNull file.1 = false ∧
        w.entry file.1 = .content (Utf8.encode file.2)) →
      let bytes := ((files.map Prod.snd).map Utf8.encode).flatten
      Utf8.decodeStrict bytes = .ok (Utf8.decodeLossy bytes) ∧
        ∀ input, (Command.builtin .cat (files.map Prod.fst)).run w input =
          ⟨files.map fun file => .read file.1, .ok (Utf8.decodeLossy bytes)⟩ := by
  refine ⟨fun path text hpath h => (World.reads_of_encode hpath h).readText_eq,
    fun program args h => ⟨h.run_eq, fun p q hpq => ?_⟩, fun files hne h => ?_⟩
  · -- the program is reached only if the commands before it succeed, with the text that it copies
    have hcopy : p ++ .external program args :: q ≠ [] := by simp
    obtain ⟨before, hbefore, hrun⟩ := exists_ofList?_eq_some (w := w) hpq
    obtain ⟨after, hafter, hrun'⟩ := exists_ofList?_eq_some (w := w) hcopy
    refine ⟨before, after, hbefore, hafter, fun f hf => ?_, fun text hp => ⟨?_, ?_⟩⟩
    · rw [hrun, hrun', run_insert_of_error hf]
    · rw [hrun, runCommands_append, Run.bind_of_ok hp]
    · rw [hrun', run_insert_copy_of_ok h hp]
  · intro bytes
    have hbytes : bytes = Utf8.encode (files.map Prod.snd).flatten := Utf8.flatten_map_encode _
    rw [hbytes, Utf8.decodeLossy_encode]
    exact ⟨Utf8.decodeStrict_eq_ok_iff.mpr rfl, runCat_of_encode hne h⟩

/-- A text with a byte order mark, a null character, all ends of lines and a character of four bytes,
which goes through a program on its way from a file to `wc`. -/
theorem Pipeline.text_crosses_unchanged_byte_order_mark :
    let text : Text := ['\uFEFF', '\x00', '\r', '\n', '\r', '\n', '😀']
    let w : World := ⟨fun _ => some (.content (Utf8.encode text)),
      fun _ _ bytes => .finished ⟨bytes, [33], 0⟩, ['/']⟩
    let copy : Command := .external ['t', 'e', 'e'] []
    let cat : Command := .builtin .cat [['f']]
    (holdsNull ['f'] = false ∧ w.entry ['f'] = .content (Utf8.encode text) ∧
      w.Copies ['t', 'e', 'e'] [] ∧ [cat] ++ [.builtin .wc []] ≠ []) ∧
    (w.readText ['f']).outcome = .ok (.ok text) ∧
    (∃ after : Pipeline, ofList? [cat, copy, .builtin .wc []] = some after ∧
      (after.run w).outcome = .ok ['3', ' ', '2', ' ', '7']) ∧
    (Command.builtin .cat [['f'], ['f']]).run w [] =
      ⟨[.read ['f'], .read ['f']], .ok (text ++ text)⟩ := by
  intro text w copy cat
  have hpath : holdsNull ['f'] = false := by decide
  have hentry : w.entry ['f'] = .content (Utf8.encode text) := rfl
  have hcopies : w.Copies ['t', 'e', 'e'] [] := ⟨by decide, fun _ => ⟨_, rfl⟩⟩
  have hne : [cat] ++ [.builtin .wc []] ≠ [] := List.cons_ne_nil _ _
  obtain ⟨hread, hcopy, hcat⟩ := text_crosses_unchanged w
  have htext := hread ['f'] text hpath hentry
  obtain ⟨-, hinsert⟩ := hcopy _ _ hcopies
  obtain ⟨before, after, -, hafter, -, hrun⟩ := hinsert [cat] [.builtin .wc []] hne
  have hfirst : (runCommands w [] [cat]).outcome = .ok text := by decide +kernel
  have hfiles : ∀ file ∈ [(['f'], text), (['f'], text)], holdsNull file.1 = false ∧
      w.entry file.1 = .content (Utf8.encode file.2) := by
    simpa using ⟨hpath, hentry⟩
  obtain ⟨-, htwice⟩ := hcat _ (List.cons_ne_nil _ _) hfiles
  have hbytes : Utf8.decodeLossy ([Utf8.encode text, Utf8.encode text].flatten) = text ++ text := by
    decide +kernel
  refine ⟨⟨hpath, hentry, hcopies, hne⟩, by rw [htext], ⟨after, hafter, ?_⟩, ?_⟩
  · rw [(hrun text hfirst).2]
    decide +kernel
  · exact hbytes ▸ htwice []

end TextShell
