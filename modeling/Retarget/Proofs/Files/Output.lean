/-
# Retarget.Proofs.Files.Output -- the converted file beside its source

The converted file stands in the directory of its source, under a name that is longer than that of
the source by the ending and shorter by the extension, if there was one (`exists_stem`).  So it
never has the name of its source, and two sources in one directory share an output if and only if
they have the same stem: if one of them is named like the other with the extension behind it
(`outputName_eq_iff`).

Paths that were read from a text are normal (`Normal`), outputs are, and a normal path is read back
from the text it is written as (`Normal.ofText_text`).  So what is said of outputs as paths holds of
the texts that are handed to the system.  There, another name in the same directory is another place
(`Normal.place_ne`), and writing the output leaves the source as it was.
-/
import Retarget.Proofs.Files.Path
import Retarget.Proofs.Text.Trimming

namespace Retarget

set_option autoImplicit false

namespace Path

/-! ## Names -/

def outputEnding : Text := "_ie64.asm"

/-- The first name is the second with the extension behind it, and the second had none. -/
def Extends (name other : Text) : Prop :=
  name = other ++ sourceExtension ∧ ¬ sourceExtension <:+ other

instance (name other : Text) : Decidable (Extends name other) :=
  inferInstanceAs (Decidable (_ ∧ ¬ _))

theorem outputName_append (stem : Text) :
    outputName (stem ++ sourceExtension) = stem ++ outputEnding := by
  have extended : sourceExtension.isSuffixOf (stem ++ sourceExtension) = true :=
    List.isSuffixOf_iff_suffix.mpr (List.suffix_append _ _)
  unfold outputName
  rw [if_pos extended, List.length_append, Nat.add_sub_cancel, List.take_left]
  rfl

theorem outputName_of_bare {name : Text} (bare : ¬ sourceExtension <:+ name) :
    outputName name = name ++ outputEnding := by
  unfold outputName
  rw [if_neg (mt List.isSuffixOf_iff_suffix.mp bare)]
  rfl

/-- A name is its stem and the extension, or all stem; its output is the stem and the ending. -/
theorem exists_stem (name : Text) : ∃ stem, outputName name = stem ++ outputEnding ∧
    (name = stem ++ sourceExtension ∨ (name = stem ∧ ¬ sourceExtension <:+ name)) := by
  by_cases ends : sourceExtension <:+ name
  · obtain ⟨stem, rfl⟩ := ends
    exact ⟨stem, outputName_append stem, .inl rfl⟩
  · exact ⟨name, outputName_of_bare ends, .inr ⟨rfl, ends⟩⟩

theorem outputEnding_suffix (name : Text) : outputEnding <:+ outputName name := by
  obtain ⟨stem, output, -⟩ := exists_stem name
  rw [output]
  exact List.suffix_append _ _

/-- The output has another name. -/
theorem outputName_ne (name : Text) : outputName name ≠ name := by
  obtain ⟨stem, output, source⟩ := exists_stem name
  have ending : outputEnding.length = 9 := rfl
  have extension : sourceExtension.length = 4 := rfl
  intro same
  have long : name.length = stem.length + 9 := by
    rw [← same, output, List.length_append, ending]
  rcases source with extended | ⟨plain, -⟩
  · have short := congrArg List.length extended
    rw [List.length_append, extension] at short
    omega
  · have short := congrArg List.length plain
    omega

theorem Extends.outputName_eq {name other : Text} (longer : Extends name other) :
    outputName name = outputName other := by
  rw [longer.1, outputName_append, outputName_of_bare longer.2]

/-- Names with the same output are the same, or one extends the other. -/
theorem outputName_eq_iff (name other : Text) :
    outputName name = outputName other ↔
      name = other ∨ Extends name other ∨ Extends other name := by
  constructor
  · intro same
    obtain ⟨stem, output, source⟩ := exists_stem name
    obtain ⟨stem', output', source'⟩ := exists_stem other
    rw [output, output', List.append_left_inj] at same
    subst same
    rcases source with extended | ⟨plain, bare⟩
    · rcases source' with extended' | ⟨plain', bare'⟩
      · exact .inl (extended.trans extended'.symm)
      · exact .inr (.inl ⟨plain' ▸ extended, bare'⟩)
    · rcases source' with extended' | ⟨plain', -⟩
      · exact .inr (.inr ⟨plain ▸ extended', bare⟩)
      · exact .inl (plain.trans plain'.symm)
  · rintro (rfl | longer | shorter)
    · rfl
    · exact longer.outputName_eq
    · exact shorter.outputName_eq.symm

/-! ## Normal paths -/

namespace Normal

variable {p q : Path}

/-- A normal path is read back from the text it is written as. -/
theorem ofText_text (normal : p.Normal) : ofText p.text = p := by
  by_cases unnamed : p.names = []
  · obtain ⟨root, names⟩ := p
    obtain rfl : names = [] := unnamed
    cases root <;> rfl
  · have written := text_of_named unnamed
    have root : (ofText p.text).root = p.root := by
      have slash : ∀ c ∈ List.replicate p.root.slashes '/', (c == '/') = true := by simp
      have stops : ∀ c, (Text.join ['/'] p.names).head? = some c → (c == '/') = false := by
        intro c first
        rw [beq_eq_false_iff_ne]
        rintro rfl
        exact normal.head?_join unnamed first
      show rootOf (p.text.takeWhile (· == '/')).length = p.root
      rw [written, Text.takeWhile_append slash stops, List.length_replicate,
        PathRoot.rootOf_slashes]
    have names : (ofText p.text).names = p.names := by
      rw [written, names_ofText_slashes, names_ofText, normal.piecesAt_join unnamed]
      exact List.filter_eq_self.mpr normal.leads
    show (⟨(ofText p.text).root, (ofText p.text).names⟩ : Path) = p
    rw [root, names]

theorem text_inj (normal : p.Normal) (other : q.Normal) : p.text = q.text ↔ p = q := by
  constructor
  · intro same
    rw [← normal.ofText_text, same, other.ofText_text]
  · rintro rfl
    rfl

theorem withName (normal : p.Normal) {name : Text} (leads : Path.leads name = true)
    (solid : '/' ∉ name) : (p.withName name).Normal := by
  have kept : ∀ other ∈ p.names.dropLast, other ∈ p.names :=
    fun other member => (List.dropLast_sublist _).subset member
  constructor
  · intro other member
    rcases List.mem_append.mp member with inside | last
    · exact normal.leads other (kept other inside)
    · rwa [List.mem_singleton.mp last]
  · intro other member
    rcases List.mem_append.mp member with inside | last
    · exact normal.solid other (kept other inside)
    · rwa [List.mem_singleton.mp last]

end Normal

def parent (p : Path) : Path := { p with names := p.names.dropLast }

section Renamed

variable (p q : Path) (name other : Text)

theorem withName_eq :
    p.withName name = { p.parent with names := p.parent.names ++ [name] } := rfl

theorem parent_withName : (p.withName name).parent = p.parent := by
  simp [withName, parent]

theorem name?_withName : (p.withName name).name? = some name := by
  simp [withName, name?]

theorem withName_eq_iff :
    p.withName name = q.withName other ↔ p.parent = q.parent ∧ name = other := by
  constructor
  · intro same
    have parents := congrArg parent same
    have names := congrArg name? same
    rw [parent_withName, parent_withName] at parents
    rw [name?_withName, name?_withName] at names
    exact ⟨parents, Option.some.inj names⟩
  · rintro ⟨parents, rfl⟩
    rw [withName_eq, withName_eq, parents]

end Renamed

section Output

variable {p : Path} {name : Text}

theorem length_outputName (name : Text) : 9 ≤ (outputName name).length :=
  (outputEnding_suffix name).length_le

theorem leads_outputName (name : Text) : leads (outputName name) = true := by
  have long := length_outputName name
  simp only [leads, Bool.not_eq_true', Bool.or_eq_false_iff, beq_eq_false_iff_ne]
  constructor
  · intro empty
    simp [empty] at long
  · intro dot
    simp [dot] at long

theorem defaultOutput_of_name (named : p.name? = some name) :
    p.defaultOutput = .ok (p.withName (outputName name)) := by
  simp [defaultOutput, named]

/-- Only a path without a final name has no output. -/
theorem defaultOutput_eq_error_iff {fault : PathFault} :
    p.defaultOutput = .error fault ↔ p.name? = none ∧ fault = .noName p := by
  unfold defaultOutput
  cases p.name? <;> simp [eq_comm]

theorem Normal.output (normal : p.Normal) (named : p.name? = some name) :
    (p.withName (outputName name)).Normal := by
  apply normal.withName (leads_outputName name)
  apply notMem_outputName (by decide)
  exact normal.solid name (List.mem_of_getLast? named)

end Output

end Path

/-! ## Places -/

namespace Path

variable {tree : FileTree} {p : Path} {name other : Text}

theorem follow_eq_concat (l : Location) (leads : Path.leads name = true)
    (down : name ≠ ['.', '.']) : l.follow name = l ++ [name] := by
  simp only [Path.leads, Bool.not_eq_true', Bool.or_eq_false_iff, beq_eq_false_iff_ne] at leads
  rw [Location.follow, if_neg (not_or.mpr leads), if_neg down]

/-- Double dots lead from a directory to a directory, so a file is in the directory that is left. -/
theorem follow_of_file {l : Location} (rooted : tree.Rooted l)
    (directory : tree.find? l = some .directory) (leads : Path.leads name = true) {bytes : Bytes}
    (file : tree.find? (l.follow name) = some (.file bytes)) : l.follow name = l ++ [name] := by
  apply follow_eq_concat l leads
  rintro rfl
  have parent : l.follow ['.', '.'] = l.parent := rfl
  rw [parent, rooted.find?_parent directory] at file
  cases file

/-- A path leads to a directory first, and from there by its final name. -/
theorem Normal.exists_directory (normal : p.Normal) {before : List Text}
    (names : p.names = before ++ [name]) {place : Location}
    (resolved : tree.resolve p.text = .ok place) :
    ∃ l, tree.walk (.start p.text) before = .ok l ∧ tree.find? l = some .directory ∧
      tree.Rooted l ∧ l.follow name = place := by
  have named : p.names ≠ [] := by simp [names]
  obtain ⟨-, walked⟩ := (FileTree.resolve_text_eq_ok_iff normal named).mp resolved
  rw [names] at walked
  obtain ⟨l, reached, directory, -, last⟩ := FileTree.walk_concat_eq_ok_iff.mp walked
  exact ⟨l, reached, directory, (FileTree.rooted_start tree p.text).walk reached, last⟩

/-- Another name in the same directory is another place than that of a file. -/
theorem Normal.place_ne (normal : p.Normal) (named : p.name? = some name)
    (renamed : (p.withName other).Normal) (down : other ≠ ['.', '.']) (differ : other ≠ name)
    {bytes : Bytes} (held : tree.At p.text (.file bytes)) {place : Location}
    (resolved : tree.resolve (p.withName other).text = .ok place) :
    tree.resolve p.text ≠ .ok place := by
  obtain ⟨here, found, file⟩ := held
  obtain ⟨before, names⟩ := List.getLast?_eq_some_iff.mp named
  have otherNames : (p.withName other).names = before ++ [other] := by
    rw [Path.withName, names, List.dropLast_concat]
  have start : Location.start (p.withName other).text = Location.start p.text := by
    rw [normal.start_text (by simp [names]), renamed.start_text (by simp [otherNames])]
    rfl
  obtain ⟨l, reached, directory, rooted, last⟩ := normal.exists_directory names found
  obtain ⟨l', reached', -, -, last'⟩ := renamed.exists_directory otherNames resolved
  rw [start, reached] at reached'
  obtain rfl : l = l' := Except.ok.inj reached'
  have inside : here = l ++ [name] := by
    rw [← last] at file ⊢
    exact follow_of_file rooted directory (normal.leads name (by simp [names])) file
  have beside : place = l ++ [other] := by
    rw [← last']
    exact follow_eq_concat l (renamed.leads other (by simp [otherNames])) down
  rw [found, inside, beside]
  intro same
  have names := List.append_cancel_left (Except.ok.inj same)
  exact differ (List.singleton_inj.mp names).symm

/-- Writing the output leaves the source as it was. -/
theorem output_spares_source {t : Text} (named : (ofText t).name? = some name) {bytes : Bytes}
    (held : tree.At t (.file bytes)) {place : Location}
    (opens : tree.Opens ((ofText t).withName (outputName name)).text place) (content : Bytes) :
    (tree.put place content).read t = .ok bytes := by
  have normal := normal_ofText t
  have down : outputName name ≠ ['.', '.'] := by
    intro up
    have long := length_outputName name
    simp [up] at long
  have apart := normal.place_ne named (normal.output named) down (outputName_ne name)
    (FileTree.at_ofText held) opens.1
  apply (FileTree.read_put_eq_ok_iff opens.2 content).mpr
  refine .inr ⟨fun here => apart ?_, FileTree.read_eq_ok_iff.mpr held⟩
  exact FileTree.resolve_ofText (FileTree.names_ne_nil held) here

/-- **The converted file stands beside its source, never in its place, and it is known which sources
share one.**  A path has an output if and only if it has a final name.  The output is in the same
directory, and its name has the ending and is not that of the source; wherever the source is a file,
writing the output leaves it as it was.  Two paths have the same output if and only if they are in
the same directory and have the same name, or one has the name of the other with the extension
behind it, which the other lacks.  Outputs are read back from their texts, so the texts are the same
if and only if the outputs are. -/
theorem default_outputs (t : Text) :
    let p := ofText t
    (∀ fault, p.defaultOutput = .error fault ↔ p.name? = none ∧ fault = .noName p) ∧
    ∀ name, p.name? = some name → ∃ output newName,
      p.defaultOutput = .ok output ∧ ofText output.text = output ∧
      output.parent = p.parent ∧ output.name? = some newName ∧
      "_ie64.asm" <:+ newName ∧ newName ≠ name ∧
      (∀ (tree : FileTree) bytes place content, tree.At t (.file bytes) →
        tree.Opens output.text place → (tree.put place content).read t = .ok bytes) ∧
      ∀ u other shared, (ofText u).name? = some other → (ofText u).defaultOutput = .ok shared →
        (shared = output ↔ (ofText u).parent = p.parent ∧
          (other = name ∨ Extends other name ∨ Extends name other)) ∧
        (shared.text = output.text ↔ shared = output) := by
  intro p
  have normal : p.Normal := normal_ofText t
  refine ⟨fun fault => defaultOutput_eq_error_iff, fun name named => ?_⟩
  have outputNormal := normal.output named
  refine ⟨p.withName (outputName name), outputName name, defaultOutput_of_name named,
    outputNormal.ofText_text, p.parent_withName _, p.name?_withName _, outputEnding_suffix name,
    outputName_ne name, ?_, ?_⟩
  · intro tree bytes place content held opens
    exact output_spares_source named held opens content
  · intro u other shared otherNamed output
    rw [defaultOutput_of_name otherNamed] at output
    cases output
    refine ⟨?_, ((normal_ofText u).output otherNamed).text_inj outputNormal⟩
    rw [withName_eq_iff, outputName_eq_iff]

/-- Two sources of one directory that share an output, and one that has its own. -/
theorem shared_output :
    ∃ output, (ofText "d//a.s").defaultOutput = .ok output ∧
      (ofText "./d/a.s.asm").defaultOutput = .ok output ∧
      (ofText "d/a.s.asm.asm").defaultOutput ≠ .ok output := by
  obtain ⟨output, newName, first, -, -, -, -, -, -, shares⟩ :=
    (default_outputs "d//a.s").2 "a.s" (by decide)
  have second : (ofText "./d/a.s.asm").defaultOutput =
      .ok ⟨.relative, ["d", "a.s_ie64.asm"]⟩ := by decide +kernel
  have same := (shares "./d/a.s.asm" "a.s.asm" _ (by decide) second).1.mpr
    ⟨by decide, .inr (.inl (by decide))⟩
  refine ⟨output, first, same ▸ second, fun third => ?_⟩
  have names := ((shares "d/a.s.asm.asm" "a.s.asm.asm" output (by decide) third).1.mp rfl).2
  exact absurd names (by decide)

end Path

end Retarget
