import Transclude.Proofs.Delivery

/-!
# Overwriting files

A file that is there already is overwritten in place: it is emptied, and what it is to hold is
encoded and written after that. A text that cannot be encoded therefore costs the file its content,
while all other ways to fail leave it as it was.

## Main definitions

* `EncodingChoice.Leaves` : what the writing of a text over a file leaves there.
* `Output.Overwrites`     : whether an output differs from another in the content of one file only.

## Main statements

* `Output.overwrites_toFile` : what writing a text over a file does.
* `Job.run_overwrites`       : what a file holds after a job that was to overwrite it.
-/

namespace Transclude

/-- What the writing of a text over a file leaves there, and the problem with it: what was there
before, if the choice of the encoding is refused; nothing, if there is no such encoding or the text
cannot be encoded; and if it can, what a file holds of it, which is the whole text but for names of
domains. -/
inductive EncodingChoice.Leaves (encoding : EncodingChoice) (text : String)
    (before : List UInt8) : List UInt8 → Option EncodingError → Prop
  | refused {e : EncodingError} (refused : Encoding.problemForFile? encoding = some e) :
    Leaves encoding text before before (some e)
  | emptied {e : EncodingError} (allowed : Encoding.problemForFile? encoding = none)
    (failed : Encoding.contentOf encoding text = .error e) :
    Leaves encoding text before [] (some e)
  | written {bytes : List UInt8} (allowed : Encoding.problemForFile? encoding = none)
    (encoded : Encoding.contentOf encoding text = .ok bytes) :
    Leaves encoding text before bytes none

namespace FileTree

variable {t : FileTree} {cwd path : String} {place : List String} {before : List UInt8}

/-- What is written over a file is put in its place. -/
theorem write_of_file (h : t.locate cwd path = .ok (place, some (.file before)))
    (content : List UInt8) :
    t.write cwd path content = .ok (t.put place (.file content)) ∧
      (t.put place (.file content)).locate cwd path = .ok (place, some (.file content)) := by
  have hwrite : t.write cwd path content = .ok (t.put place (.file content)) := by
    rw [write, h]
  refine ⟨hwrite, ?_⟩
  obtain ⟨place', ⟨hdevice, -⟩ | ⟨-, -, hplace, -, hnow⟩⟩ := write_eq hwrite
  · rw [h] at hdevice
    cases hdevice
  · rw [h] at hplace
    obtain rfl : place = place' := (Prod.mk.inj (Except.ok.inj hplace)).1
    exact hnow

end FileTree

namespace Output

variable {cwd path text : String} {place : List String} {before bytes : List UInt8}
  {o o' : Output}

/-- Whether an output differs from that before it at most in the content of the file that a path
leads to. -/
structure Overwrites (cwd path : String) (place : List String) (bytes : List UInt8)
    (o o' : Output) : Prop where
  holds : o'.files.locate cwd path = .ok (place, some (.file bytes))
  others : ∀ other, other ≠ place → o'.files.node? other = o.files.node? other
  standard : o'.standard = o.standard
  stream : o'.stream = o.stream

/-- A file that is left alone holds what it held. -/
theorem Overwrites.refl (h : o.files.locate cwd path = .ok (place, some (.file before))) :
    Overwrites cwd path place before o o :=
  ⟨h, fun _ _ => rfl, rfl, rfl⟩

/-- A file is overwritten by putting another in its place. -/
theorem overwrites_put (h : o.files.locate cwd path = .ok (place, some (.file before)))
    (bytes : List UInt8) :
    Overwrites cwd path place bytes o { o with files := o.files.put place (.file bytes) } where
  holds := (FileTree.write_of_file h bytes).2
  others := fun other hother => by rw [FileTree.node?_put, if_neg hother.symm]
  standard := rfl
  stream := rfl

/-- A text is written over a file by emptying it first, unless the choice of the encoding is
refused. -/
theorem overwrites_toFile (h : o.files.locate cwd path = .ok (place, some (.file before)))
    (encoding : EncodingChoice) (htext : Text.Ended text.toList) :
    ∃ now problem o', encoding.Leaves text before now problem ∧
      o.toFile cwd encoding path text = (problem.map .encoding, o') ∧
      Overwrites cwd path place now o o' := by
  have hdirectory : o.files.isDirectory cwd path = false := by
    rw [FileTree.isDirectory, h]
  have hparents := FileTree.makeParents_of_file h (by rintro ⟨⟩)
  have hempty := (FileTree.write_of_file h []).1
  unfold toFile
  rw [h]
  dsimp only
  rw [hdirectory, if_neg (by decide), hparents]
  dsimp only
  rw [hempty, Encoding.writeFile_eq_contentOf encoding htext]
  cases hproblem : Encoding.problemForFile? encoding with
  | some e => exact ⟨before, some e, o, .refused hproblem, rfl, .refl h⟩
  | none =>
    cases hencoded : Encoding.contentOf encoding text with
    | error e => exact ⟨[], some e, _, .emptied hproblem hencoded, rfl, overwrites_put h []⟩
    | ok bytes =>
      have hfull := FileTree.write_again hempty bytes
      rw [(FileTree.write_of_file h bytes).1] at hfull
      dsimp only
      rw [hfull]
      exact ⟨bytes, none, _, .written hproblem hencoded, rfl, overwrites_put h bytes⟩

end Output

/-- What a file holds after a job without hooks that was to overwrite it, when nothing else has
changed. If there is no result, or if it is fatal, the file holds what it held. If not, it is left
as the encoding of the text leaves it, and the job fails if that does. -/
theorem Job.run_overwrites (j : Job) (cwd : String) (o : Output) (path : String)
    (place : List String) (before : List UInt8) (_hregistry : j.registry.isEmpty = true)
    (htarget : j.target = .file path)
    (hfile : o.files.locate cwd (Path.collapsed path) = .ok (place, some (.file before))) :
    ∃ now, Output.Overwrites cwd (Path.collapsed path) place now o (j.run cwd o).output ∧
      ((∀ r, j.result cwd o = .ok r → r.ok = false) → now = before) ∧
      ∀ r, j.result cwd o = .ok r → r.ok = true →
        ∃ problem, j.options.encoding.meaning.Leaves r.text before now problem ∧
          (j.run cwd o).verdict =
            problem.elim (.ok r) fun e => .error (.output (.encoding e)) := by
  have hkept : Output.Overwrites cwd (Path.collapsed path) place before o o := .refl hfile
  cases hresult : j.result cwd o with
  | error e =>
    have hrun := j.run_of_result cwd o
    rw [hresult] at hrun
    dsimp only at hrun
    obtain ⟨-, houtput⟩ := Prod.mk.inj hrun
    rw [houtput]
    exact ⟨before, hkept, fun _ => rfl, fun r hr => nomatch hr⟩
  | ok r =>
    cases hok : r.ok with
    | false =>
      obtain ⟨d, hd⟩ := r.exists_fatal hok
      obtain ⟨-, houtput⟩ := Job.run_of_fatal hresult hd
      rw [houtput]
      refine ⟨before, hkept, fun _ => rfl, ?_⟩
      rintro r' ⟨⟩ hok'
      rw [hok] at hok'
      cases hok'
    | true =>
      -- only now is the file written
      obtain ⟨now, problem, o', hleaves, hfilled, hnow⟩ :=
        Output.overwrites_toFile hfile j.options.encoding.meaning r.text_ended
      have hwrite : j.target.write cwd j.options.encoding.meaning r.text o =
          (problem.elim (.ok (some (Path.collapsed path))) fun e => .error (.encoding e), o') := by
        rw [htarget, Target.write, hfilled]
        cases problem with
        | none => rfl
        | some e => rfl
      obtain ⟨hverdict, houtput⟩ := Job.run_of_ok hresult hok hwrite
      rw [houtput]
      refine ⟨now, hnow, fun hfatal => ?_, ?_⟩
      · rw [hfatal r rfl] at hok
        cases hok
      · rintro r' ⟨⟩ -
        refine ⟨problem, hleaves, ?_⟩
        rw [hverdict]
        cases problem with
        | none => rfl
        | some e => rfl

/-- A line takes the place of what a file held. -/
theorem Job.run_overwrites_line :
    let j : Job := { source := .text "x\n", target := .file "out" }
    let o : Output := { files := ⟨[(["out"], .file [111, 108, 100])]⟩ }
    o.files.locate "/" "out" = .ok (["out"], some (.file [111, 108, 100])) ∧
      Output.Overwrites "/" "out" ["out"] [120, 10] o (j.run "/" o).output := by
  intro j o
  have hcollapsed : Path.collapsed "out" = "out" := by decide +kernel
  have hfile : o.files.locate "/" (Path.collapsed "out") =
      .ok (["out"], some (.file [111, 108, 100])) := by decide +kernel
  have hwithin : (j.resultWithin 3 "/" o).map (fun r => (r.ok, r.text)) = some (true, "x\n") := by
    decide +kernel
  obtain ⟨r, hr, hshown⟩ := Option.map_eq_some_iff.1 hwithin
  obtain ⟨hok, htext⟩ := Prod.mk.inj hshown
  obtain ⟨now, hnow, -, hresult⟩ := j.run_overwrites "/" o "out" ["out"] _ rfl rfl hfile
  have hproblem : Encoding.problemForFile? j.options.encoding.meaning = none := by decide +kernel
  have hencoded : Encoding.contentOf j.options.encoding.meaning "x\n" = .ok [120, 10] := by
    decide +kernel
  obtain ⟨problem, hleaves, -⟩ := hresult r (Job.result_of_resultWithin 3 hr) hok
  rw [htext] at hleaves
  have hfull : now = [120, 10] := by
    cases hleaves with
    | refused refused =>
      rw [hproblem] at refused
      cases refused
    | emptied _ failed =>
      rw [hencoded] at failed
      cases failed
    | written _ encoded =>
      rw [hencoded] at encoded
      exact (Except.ok.inj encoded).symm
  rw [hcollapsed] at hfile hnow
  subst hfull
  exact ⟨hfile, hnow⟩

/-- A letter that the encoding lacks costs a file its content, and so does a label of which the end
is not told, though the job then has its result. -/
theorem Job.run_empties_file :
    let job : String → String → Job := fun text name =>
      { source := .text text, options := { encoding := ⟨.named name, .text name⟩ },
        target := .file "out" }
    let o : Output := { files := ⟨[(["out"], .file [111, 108, 100])]⟩ }
    o.files.read "/" "out" = .ok [111, 108, 100] ∧
      ((∃ r, (job "é\n" "ascii").result "/" o = .ok r ∧ r.ok = true ∧ r.text = "é\n" ∧
          ∀ bytes, Encoding.encode .ascii r.text ≠ .ok bytes) ∧
        ((job "é\n" "ascii").run "/" o).output.files.read "/" "out" = .ok []) ∧
      ∃ r, ((job "x\n" "idna").run "/" o).verdict = .ok r ∧
        Encoding.encode .idna r.text = .ok [120, 10] ∧
        ((job "x\n" "idna").run "/" o).output.files.read "/" "out" = .ok [] := by
  intro job o
  refine ⟨by decide +kernel, ?_, Job.run_label⟩
  let j := job "é\n" "ascii"
  have hwithin : (j.resultWithin 3 "/" o).map (fun r => (r.ok, r.text)) = some (true, "é\n") := by
    decide +kernel
  obtain ⟨r, hr, hshown⟩ := Option.map_eq_some_iff.1 hwithin
  obtain ⟨hok, htext⟩ := Prod.mk.inj hshown
  have hresult := Job.result_of_resultWithin 3 hr
  have hunencoded : (Encoding.encode .ascii "é\n").toOption = none := by decide +kernel
  have hemptied :
      (j.target.write "/" (.named "ascii") "é\n" o).2.files.read "/" "out" = .ok [] := by
    decide +kernel
  rw [← htext] at hunencoded hemptied
  obtain ⟨-, houtput⟩ := Job.run_of_ok hresult hok
    (show j.target.write "/" (.named "ascii") r.text o = (_, _) from rfl)
  refine ⟨⟨r, hresult, hok, htext, fun bytes hbytes => ?_⟩, ?_⟩
  · rw [hbytes] at hunencoded
    cases hunencoded
  · rw [houtput]
    exact hemptied

end Transclude
