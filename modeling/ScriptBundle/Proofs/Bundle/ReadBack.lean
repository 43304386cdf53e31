import Mathlib.Data.List.Basic
import Mathlib.Data.List.Induction
import ScriptBundle.Proofs.Bundle.Indentation
import ScriptBundle.Proofs.Bundle.Literals
import ScriptBundle.Proofs.Payload.RoundTrip

namespace ScriptBundle

open Text Template Python

/-! ## Lines -/

/-- The line that registers a module, without its end. -/
def registrationLine (r : Record) : List Char :=
  (indentation ++ registerFunction ++ "(").toList ++ ((literal r.canonical).toList ++
    (", ".toList ++ ((literal (Payload.encode r.source)).toList ++ [')'])))

theorem toList_registration (r : Record) :
    (registration r).toList = registrationLine r ++ ['\n'] := by
  have hend : ")\n".toList = [')', '\n'] := by decide
  simp only [registration, registrationLine, String.toList_append, hend, List.append_assoc,
    List.cons_append, List.nil_append]

theorem visible_of_all {text : List Char} (h : text.all (!isControl ·) = true) :
    ∀ c ∈ text, isControl c = false := by
  simpa using h

/-- A registration is one line: neither path nor source brings a line feed or another control
character into it. -/
theorem visible_registrationLine (r : Record) :
    ∀ c ∈ registrationLine r, isControl c = false := by
  have hfront : ∀ c ∈ (indentation ++ registerFunction ++ "(").toList, isControl c = false :=
    visible_of_all (by decide)
  have hmiddle : ∀ c ∈ ", ".toList, isControl c = false := visible_of_all (by decide)
  have hback : ∀ c ∈ [')'], isControl c = false := visible_of_all (by decide)
  intro c hc
  simp only [registrationLine, List.mem_append] at hc
  rcases hc with hc | hc | hc | hc | hc
  · exact hfront c hc
  · exact visible_literal _ c hc
  · exact hmiddle c hc
  · exact visible_literal _ c hc
  · exact hback c hc

theorem notMem_registrationLine (r : Record) : '\n' ∉ registrationLine r := fun h =>
  (ne_of_visible (visible_registrationLine r _ h)).1 rfl

def front (options : AssembleOptions) (source : List Char) : List Char :=
  (shebangLine options source).toList ++ ['\n'] ++
    (hoist source).statements.flatMap (· ++ ['\n']) ++ opening.toList

/-- The script as it stands behind the registrations, with an end of its last line. -/
def block (source : List Char) : List Char :=
  indent (hoist source).body ++
    if (indent (hoist source).body).getLast?.getD '\n' = '\n' then [] else ['\n']

theorem toList_missingLineFeed {script : String} (before text : List Char)
    (h : script.toList = before ++ '\n' :: text) :
    (missingLineFeed script).toList = if text.getLast?.getD '\n' = '\n' then [] else ['\n'] := by
  unfold missingLineFeed
  rw [h, List.getLast?_append, List.getLast?_cons]
  simp only [Option.some_or, Option.some.injEq]
  split <;> rfl

theorem exists_opening : ∃ start, opening.toList = start ++ ['\n'] := by
  have hend : "\n".toList = ['\n'] := by decide
  have hlines : openingLines ≠ [] := by
    simp [openingLines]
  rw [opening, ← List.dropLast_concat_getLast hlines]
  generalize openingLines.dropLast = init
  generalize openingLines.getLast hlines = last
  refine ⟨(Template.text init).toList ++ last.toList, ?_⟩
  simp [Template.text, String.toList_join, hend]

/-- Opening and registrations end a line. -/
theorem exists_head (modules : List Record) : ∃ start,
    opening.toList ++ (modules.map registrationLine).flatMap (· ++ ['\n']) = start ++ ['\n'] := by
  rcases List.eq_nil_or_concat modules with rfl | ⟨init, last, rfl⟩
  · simpa using exists_opening
  · exact ⟨opening.toList ++ ((init.map registrationLine).flatMap (· ++ ['\n']) ++
      registrationLine last), by simp [List.append_assoc]⟩

/-- What stands around the registrations does not depend on the modules. -/
theorem toList_bundleText_eq (options : AssembleOptions) (source : List Char)
    (modules : List Record) :
    (bundleText options source modules).toList =
      front options source ++ (modules.map registrationLine).flatMap (· ++ ['\n']) ++
        block source ++ ['\n'] ++ closing.toList := by
  have hend : "\n".toList = ['\n'] := by decide
  obtain ⟨start, hhead⟩ := exists_head modules
  have hstatements : (String.join ((hoist source).statements.map fun s =>
      String.ofList s ++ "\n")).toList = (hoist source).statements.flatMap (· ++ ['\n']) := by
    simp only [String.toList_join, List.flatMap_map, String.toList_append, String.toList_ofList,
      hend]
  have hregistrations : (String.join (modules.map registration)).toList =
      (modules.map registrationLine).flatMap (· ++ ['\n']) := by
    simp only [String.toList_join, List.flatMap_map, toList_registration]
  unfold bundleText
  dsimp only
  rw [String.toList_append, String.toList_append, String.toList_append, hend]
  -- What stands before the script ends a line, so only the script tells whether one is missing.
  rw [toList_missingLineFeed ((shebangLine options source).toList ++ ['\n'] ++
    (hoist source).statements.flatMap (· ++ ['\n']) ++ start) (indent (hoist source).body)]
  · simp only [String.toList_append, String.toList_ofList, hstatements, hregistrations, hend, front,
      block, List.append_assoc]
  · simp only [String.toList_append, String.toList_ofList, hstatements, hregistrations, hend,
      List.append_assoc]
    rw [← List.append_assoc opening.toList, hhead, List.append_assoc start]
    rfl

theorem value_assemble (options : AssembleOptions) (source : String) (modules : List Record) :
    (assemble options source modules).value = bundleText options source.toList modules := by
  unfold assemble
  dsimp only
  split <;> rfl

end ScriptBundle
