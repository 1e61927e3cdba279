import MachineFleet.Proofs.Container.Files

/-!
Here-documents of a boot script, as a shell reads them: a line that opens one, then its content up
to the first line that is the delimiter. What is read is what was written, except for a
configuration with a value that has such a line in it.
-/

namespace MachineFleet.Userdata

structure Heredoc where
  /-- What stands before the line that opens it. -/
  commands : String
  path : String
  content : String
  deriving DecidableEq, Repr

def opening : String := "cat <<'" ++ delimiter ++ "' > "

def opens (line : String) : Bool := opening.toList.isPrefixOf line.toList

/-- The first here-document among the lines, and the lines after it. One that is never ended has
all of them. -/
def readHeredoc (ls : List String) : Option (Heredoc × List String) :=
  match ls.dropWhile fun l => !opens l with
  | [] => none
  | l :: body =>
    some ({
        commands := Text.unlines (ls.takeWhile fun l => !opens l)
        path := String.ofList (l.toList.drop opening.toList.length)
        content := Text.unlines (body.takeWhile (· != delimiter)) },
      (body.dropWhile (· != delimiter)).tail)

def readHeredocs : Nat → List String → Option (List Heredoc × List String)
  | 0, ls => some ([], ls)
  | n + 1, ls => do
    let (h, rest) ← readHeredoc ls
    let (hs, rest) ← readHeredocs n rest
    return (h :: hs, rest)

/-- The here-document that a file should come to, behind some commands. -/
def heredoc (commands path content : String) : Heredoc where
  commands := commands ++ "\nmkdir -p " ++ directory path ++ "\n"
  path
  content := Text.trimEnd content ++ "\n"

def header : String := "#!/bin/bash\nset -xeuo pipefail\n"

/-- The files of an engine. -/
def heredocs (e : Engine) : List Heredoc :=
  heredoc header e.configFile e.config ::
    match e.authFile, e.authConfig with
    | some path, some content => [heredoc "" path content]
    | _, _ => []

/-- A line of the value, other than its last, ends a here-document. -/
def Ends (value : String) : Prop := delimiter ∈ (Text.split '\n' value).dropLast

/-- The lines of a part of the script that is run behind the files: if it is blank none, otherwise
an empty one and its own. -/
def partLines (part : String) : List String :=
  if Text.isAllBlank part then []
  else "" :: if part.toList.getLast? = some '\n' then (Text.split '\n' part).dropLast
    else Text.split '\n' part

theorem delimiter_bare : Toml.Bare delimiter.toList :=
  ⟨by decide, List.all_eq_true.mp (by decide)⟩

section Reading

variable {commands path content rest : String} {ls before after : List String}

theorem readHeredoc_eq (quiet : ∀ l ∈ before, opens l = false) (body : List String) :
    readHeredoc (before ++ (opening ++ path) :: body) =
      some (⟨Text.unlines before, path, Text.unlines (body.takeWhile (· != delimiter))⟩,
        (body.dropWhile (· != delimiter)).tail) := by
  have skipped : ∀ l ∈ before, (!opens l) = true := by simpa using quiet
  have found : (!opens (opening ++ path)) = false := by
    simp [opens, String.toList_append]
  have name : String.ofList ((opening ++ path).toList.drop opening.toList.length) = path := by
    rw [String.toList_append, List.drop_left, String.ofList_toList]
  rw [readHeredoc, List.dropWhile_append_of_pos skipped, List.takeWhile_append_of_pos skipped,
    List.dropWhile_cons_of_neg (by simp [found]), List.takeWhile_cons_of_neg (by simp [found]),
    List.append_nil]
  dsimp only
  rw [name]

theorem lines_writeFile (flat : '\n' ∉ path.toList) :
    Text.split '\n' (commands ++ writeFile path content ++ rest) =
      Text.split '\n' (commands ++ "\nmkdir -p " ++ directory path) ++ (opening ++ path) ::
        (Text.split '\n' (Text.trimEnd content) ++ delimiter :: Text.split '\n' rest) := by
  have opened : '\n' ∉ (opening ++ path).toList := by
    rw [String.toList_append, List.mem_append, not_or]
    exact ⟨by decide, flat⟩
  have ended : '\n' ∉ delimiter.toList := by decide
  have parts : commands ++ writeFile path content ++ rest =
      commands ++ "\nmkdir -p " ++ directory path ++ "\n" ++ (opening ++ path ++ "\n" ++
        (Text.trimEnd content ++ "\n" ++ (delimiter ++ "\n" ++ rest))) := by
    have start : "\ncat <<'" = "\n" ++ "cat <<'" := by decide
    unfold writeFile opening
    rw [start]
    apply String.toList_injective
    simp only [String.toList_append, List.append_assoc]
  rw [parts, Text.split_append_newline, Text.split_append_newline, Text.split_append_newline,
    Text.split_append_newline, Text.split_of_not_mem opened, Text.split_of_not_mem ended,
    List.singleton_append, List.singleton_append]

/-- A file is read up to the first line that is the delimiter, whether or not that is its end. -/
theorem readHeredoc_lines (flat : '\n' ∉ path.toList)
    (quiet : ∀ l ∈ Text.split '\n' (commands ++ "\nmkdir -p " ++ directory path), opens l = false)
    (lines : Text.split '\n' (Text.trimEnd content) ++ delimiter :: Text.split '\n' rest =
      ls ++ delimiter :: after) (unended : delimiter ∉ ls) :
    readHeredoc (Text.split '\n' (commands ++ writeFile path content ++ rest)) =
      some ({ heredoc commands path content with content := Text.unlines ls }, after) := by
  have kept : ∀ l ∈ ls, (l != delimiter) = true := by
    intro l known
    simpa using fun same : l = delimiter => unended (same ▸ known)
  rw [lines_writeFile flat, readHeredoc_eq quiet, lines, List.takeWhile_append_of_pos kept,
    List.dropWhile_append_of_pos kept, List.takeWhile_cons_of_neg (by simp),
    List.dropWhile_cons_of_neg (by simp), List.append_nil, List.tail_cons, Text.unlines_split]
  rfl

theorem readHeredoc_file (flat : '\n' ∉ path.toList)
    (quiet : ∀ l ∈ Text.split '\n' (commands ++ "\nmkdir -p " ++ directory path), opens l = false)
    (whole : delimiter ∉ Text.split '\n' (Text.trimEnd content)) :
    readHeredoc (Text.split '\n' (commands ++ writeFile path content ++ rest)) =
      some (heredoc commands path content, Text.split '\n' rest) := by
  rw [readHeredoc_lines flat quiet rfl whole, Text.unlines_split]
  rfl

theorem unlines_ne (ls after : List String) :
    Text.unlines ls ≠ Text.unlines (ls ++ delimiter :: after) := by
  intro same
  have nothing := congrArg String.toList same
  rw [Text.unlines_append, String.toList_append, List.self_eq_append_right] at nothing
  simp [Text.unlines, String.toList_join] at nothing

end Reading

theorem lines_extraPart (part rest : String) :
    Text.split '\n' (extraPart (some part) ++ rest) =
      partLines part ++ Text.split '\n' rest := by
  have behind : ∀ s : String, Text.split '\n' ("\n" ++ s ++ "\n" ++ rest) =
      "" :: (Text.split '\n' s ++ Text.split '\n' rest) := by
    intro s
    have front : "\n" ++ s ++ "\n" ++ rest = "" ++ "\n" ++ (s ++ "\n" ++ rest) := by
      simp [String.append_assoc]
    rw [front, Text.split_append_newline, Text.split_append_newline]
    rfl
  unfold extraPart partLines
  dsimp only
  split
  · rw [String.empty_append, List.nil_append]
  split
  · rename_i ended
    obtain ⟨cs, chars⟩ := List.getLast?_eq_some_iff.mp ended
    have whole : part = String.ofList cs ++ "\n" := by
      apply String.toList_injective
      simp [chars]
    have own := Text.split_append_newline (String.ofList cs) ""
    rw [String.append_empty, ← whole] at own
    rw [String.append_empty, whole, ← String.append_assoc, behind, ← whole, own]
    simp [Text.split, Text.splitOn]
  · rw [behind]
    rfl

theorem install_eq (script : String) : install script = extraPart (some (Text.trimEnd script)) := by
  have flat : (Text.trimEnd script).toList.getLast? ≠ some '\n' :=
    Text.getLast?_trimEnd (by decide) script
  simp only [install, extraPart, Text.isAllBlank_trimEnd, if_neg flat]

theorem assembled_eq (e : Engine) (script : String) (extra : Option String) :
    assembled e script extra =
      header ++ files e e.config e.authConfig ++ (install script ++ extraPart extra) := by
  unfold assembled header
  simp only [String.append_assoc]

/-- What stands behind the files. -/
theorem lines_behind (script : String) (extra : Option String) :
    Text.split '\n' (install script ++ extraPart extra) =
      partLines (Text.trimEnd script) ++ (partLines (extra.getD "") ++ [""]) := by
  have given : extraPart extra = extraPart (some (extra.getD "")) ++ "" := by
    cases extra <;> simp [extraPart, Text.isAllBlank]
  rw [install_eq, lines_extraPart, given, lines_extraPart]
  rfl

section Files

variable {e : Engine}

theorem ended_iff (e : Engine) :
    delimiter ∈ Text.split '\n' (Text.trimEnd e.config) ↔ ∃ s ∈ e.values, Ends s := by
  rw [Text.mem_split, e.mem_lines_config delimiter_bare]
  simp only [Ends, Text.mem_dropLast_split, Toml.Breaks]

theorem configFile_eq (e : Engine) :
    e.configFile = "/etc/docker/daemon.json" ∨ e.configFile = "/etc/containerd/config.toml" := by
  cases e with
  | docker c => exact .inl rfl
  | containerd c => exact .inr rfl

theorem authFile_eq {path : String} (known : e.authFile = some path) :
    path = "/root/.docker/config.json" := by
  cases e <;> cases known
  rfl

theorem configFile_flat (e : Engine) : '\n' ∉ e.configFile.toList := by
  rcases configFile_eq e with path | path <;> rw [path] <;> decide

theorem configFile_quiet (e : Engine) :
    ∀ l ∈ Text.split '\n' (header ++ "\nmkdir -p " ++ directory e.configFile), opens l = false := by
  rcases configFile_eq e with path | path <;> rw [path] <;> decide

theorem readHeredoc_auth {path content : String} (known : e.authFile = some path)
    (given : e.authConfig = some content) (rest : String) :
    readHeredoc (Text.split '\n' (writeFile path content ++ rest)) =
      some (heredoc "" path content, Text.split '\n' rest) := by
  have whole : delimiter ∉ Text.split '\n' (Text.trimEnd content) := by
    rw [Text.mem_split]
    exact Engine.not_mem_lines_authConfig delimiter_bare given
  have read : readHeredoc (Text.split '\n' ("" ++ writeFile path content ++ rest)) =
      some (heredoc "" path content, Text.split '\n' rest) :=
    readHeredoc_file (by rw [authFile_eq known]; decide) (by rw [authFile_eq known]; decide) whole
  rwa [String.empty_append] at read

/-- The file behind the first, if there is one, cannot be ended early. -/
theorem readHeredocs_later (e : Engine) : ∃ text hs,
    (∀ rest, header ++ files e e.config e.authConfig ++ rest =
        header ++ writeFile e.configFile e.config ++ (text ++ rest)) ∧
      heredocs e = heredoc header e.configFile e.config :: hs ∧
      ∀ rest, readHeredocs hs.length (Text.split '\n' (text ++ rest)) =
        some (hs, Text.split '\n' rest) := by
  have joined : ∀ text rest, header ++ (writeFile e.configFile e.config ++ text) ++ rest =
      header ++ writeFile e.configFile e.config ++ (text ++ rest) := by
    simp only [String.append_assoc, implies_true]
  have last : ∀ rest, readHeredocs 0 (Text.split '\n' ("" ++ rest)) =
      some ([], Text.split '\n' rest) := by
    intro rest
    rw [String.empty_append]
    rfl
  cases known : e.authFile with
  | none =>
    refine ⟨"", [], ?_, ?_, last⟩
    · unfold files
      rw [known]
      exact joined ""
    · rw [heredocs, known]
  | some path =>
    cases given : e.authConfig with
    | none =>
      refine ⟨"", [], ?_, ?_, last⟩
      · unfold files
        rw [known]
        exact joined ""
      · rw [heredocs, known, given]
    | some content =>
      refine ⟨writeFile path content, [heredoc "" path content], ?_, ?_, fun rest => ?_⟩
      · unfold files
        rw [known]
        exact joined _
      · rw [heredocs, known, given]
      · rw [List.length_singleton, readHeredocs, readHeredoc_auth known given]
        rfl

theorem readHeredocs_files (rest : String) (whole : ∀ s ∈ e.values, ¬ Ends s) :
    readHeredocs (heredocs e).length
        (Text.split '\n' (header ++ files e e.config e.authConfig ++ rest)) =
      some (heredocs e, Text.split '\n' rest) := by
  obtain ⟨text, hs, joined, all, later⟩ := readHeredocs_later e
  have absent : delimiter ∉ Text.split '\n' (Text.trimEnd e.config) := by
    rw [ended_iff]
    simpa using whole
  rw [all, List.length_cons, readHeredocs, joined,
    readHeredoc_file (configFile_flat e) (configFile_quiet e) absent]
  change (readHeredocs hs.length (Text.split '\n' (text ++ rest))).bind _ = _
  rw [later rest]
  rfl

/-- The configuration is cut where a value ends it, and its other lines are run as commands. -/
theorem readHeredoc_ended (rest : String) (ended : ∃ s ∈ e.values, Ends s) :
    ∃ first later more,
      Text.split '\n' (Text.trimEnd e.config) = first ++ delimiter :: later ∧
        readHeredoc (Text.split '\n' (header ++ files e e.config e.authConfig ++ rest)) =
          some ({ heredoc header e.configFile e.config with content := Text.unlines first },
            later ++ delimiter :: more) := by
  obtain ⟨text, -, joined, -, -⟩ := readHeredocs_later e
  obtain ⟨first, later, lines, before⟩ := List.eq_append_cons_of_mem ((ended_iff e).mpr ended)
  refine ⟨first, later, Text.split '\n' (text ++ rest), lines, ?_⟩
  rw [joined]
  refine readHeredoc_lines (configFile_flat e) (configFile_quiet e) ?_ before
  rw [lines, List.append_assoc, List.cons_append]

end Files

/-- What is read out of a boot script are the files of the engine and, behind them, what installs
it and what the operator adds, unless a value in the configuration ends the file that it is in.
Then the file is cut there, and the lines behind it are run as commands. -/
theorem files_are_read_back (e : Engine) {os : OperatingSystem} (extra : Option String)
    (supported : os.isSupported = true) :
    ∃ script text, e.script os = .ok script ∧ build e os extra = .ok text ∧
      ((∀ s ∈ e.values, ¬ Ends s) →
        readHeredocs (heredocs e).length (Text.split '\n' text) = some (heredocs e,
          partLines (Text.trimEnd script) ++ (partLines (extra.getD "") ++ [""]))) ∧
      ((∃ s ∈ e.values, Ends s) →
        ∃ first later more,
          Text.split '\n' (Text.trimEnd e.config) = first ++ delimiter :: later ∧
            readHeredoc (Text.split '\n' text) =
              some ({ heredoc header e.configFile e.config with content := Text.unlines first },
                later ++ delimiter :: more)) := by
  obtain ⟨script, rendered, built⟩ := build_ok e extra supported
  refine ⟨script, _, rendered, built, ?_⟩
  rw [assembled_eq, ← lines_behind]
  exact ⟨readHeredocs_files _, readHeredoc_ended _⟩

def pauseNode : Engine :=
  .containerd { sandboxImage := "registry.k8s.io/pause:3.9", version := "1.7*" }

theorem pause_image_is_read_back :
    OperatingSystem.flatcar.isSupported = true ∧ ∃ script text,
      pauseNode.script .flatcar = .ok script ∧ build pauseNode .flatcar none = .ok text ∧
        readHeredocs (heredocs pauseNode).length (Text.split '\n' text) = some (heredocs pauseNode,
          partLines (Text.trimEnd script) ++ (partLines "" ++ [""])) := by
  obtain ⟨script, text, rendered, built, read⟩ :=
    files_are_read_back pauseNode none (rfl : OperatingSystem.flatcar.isSupported = true)
  have single : ∀ s ∈ pauseNode.values, ¬ Ends s := by
    unfold Ends
    decide
  exact ⟨rfl, script, text, rendered, built, read.1 single⟩

/-- The parser of options only trims the name of an image, so it lets this one through. -/
def splitNode : Engine := .containerd { sandboxImage := "a\nMACHINE_CONTROLLER_EOF\nb" }

theorem split_image_is_cut : ∃ text first after,
    build splitNode .flatcar none = .ok text ∧
      readHeredoc (Text.split '\n' text) = some (first, after) ∧
        some first ≠ (heredocs splitNode).head? := by
  obtain ⟨script, -, built⟩ :=
    build_ok splitNode none (rfl : OperatingSystem.flatcar.isSupported = true)
  have ended : ∃ s ∈ splitNode.values, Ends s := by
    unfold Ends
    decide
  obtain ⟨first, later, more, lines, read⟩ :=
    readHeredoc_ended (install script ++ extraPart none) ended
  rw [← assembled_eq] at read
  refine ⟨_, _, _, built, read, ?_⟩
  intro same
  have content : Text.unlines first = Text.trimEnd splitNode.config ++ "\n" :=
    congrArg Heredoc.content (Option.some.inj same)
  rw [← Text.unlines_split, lines] at content
  exact unlines_ne first later content

end MachineFleet.Userdata
