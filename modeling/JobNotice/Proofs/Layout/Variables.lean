import JobNotice.Proofs.Layout.Straight
import Mathlib

/-!
# Layouts that ask for environment variables

A layout is filled from its slots and from whatever else it asks for. A straight layout asks for
nothing else, so it is filled alike in every environment. A layout that prints an environment
variable cannot be filled without it, and since layouts are filled when they are loaded, a template
that one environment accepts is refused in another.

## Main definitions

* `Layout.variableCall`, `Layout.variableNode` — a variable is asked for, and printed
* `Layout.siteChars` — a layout that prints the variable `SITE` and every slot

## Main results

* `Layout.Pair.fill_ofPieces_congr` — straight layouts are filled alike in every environment
* `Layout.fillNode_variable` — what printing a variable comes to
* `Layout.Template.load_variable` — where a layout that prints a variable is accepted
-/

namespace JobNotice.Layout

/-! ### Layouts that ask for nothing -/

/-- Straight layouts are filled alike in every environment. -/
theorem Pair.fill_ofPieces_congr {html text : List Piece} (hhtml : SlotsOnly html)
    (htext : SlotsOnly text) (environment environment' : Environment) :
    (ofPieces html text).fill environment = (ofPieces html text).fill environment' := by
  have hdepth := depth_ofPieces_pos html text
  funext format value
  cases format with
  | html =>
    rw [fill_straight environment (p := ofPieces html text) rfl hdepth hhtml,
      fill_straight environment' (p := ofPieces html text) rfl hdepth hhtml]
  | text =>
    rw [fill_straight environment (p := ofPieces html text) rfl hdepth htext,
      fill_straight environment' (p := ofPieces html text) rfl hdepth htext]

/-! ### Printing a variable -/

/-- A variable is asked for by its name, without a default. -/
def variableCall (name : String) : Call := .mk "get_env" [("name", .ofTerm (.string name))]

/-- The tag that prints a variable. -/
def variableNode (name : String) : Node :=
  .print ⟨false, false⟩ (.ofTerm (.call (variableCall name)))

theorem evalCall_variable (s : Scope) (name : String) :
    evalCall s (variableCall name) =
      match s.environment.lookup name with
      | some value => .ok (.string value)
      | none => .error (.functionFailed "get_env" (.misuse (.noVariable name))) := by
  have hargs : evalNamed s [("name", .ofTerm (.string name))] = .ok [("name", .string name)] := by
    simp [evalNamed, Expr.ofTerm, evalExpr, evalTerm, isCondition, evalFiltered, bind, Except.bind]
  have hname : Args.get? [("name", .string name)] "name" = some (.string name) := rfl
  have hdefault : Args.get? [("name", .string name)] "default" = none := rfl
  simp only [variableCall, evalCall, applyFunction, hargs, wrapFailure, bind, Except.bind, getEnv,
    hname, hdefault]
  cases s.environment.lookup name <;> rfl

theorem evalExpr_call (s : Scope) (c : Call) : evalExpr s (.ofTerm (.call c)) = evalCall s c := by
  have hterm : evalTerm s (.call c) = (evalCall s c).map (⟨·, false⟩) := by
    rw [evalTerm]
  rw [Expr.ofTerm, evalExpr, hterm]
  · cases evalCall s c with
    | error e => rfl
    | ok v => simp [Except.map, bind, Except.bind, isCondition, evalFiltered]
  · simp

/-- A variable prints its value. One that is not set stops the filling. -/
theorem fillNode_variable (l : Library) (depth : Nat) (s : Scope) (name : String) :
    fillNode l depth s (variableNode name) =
      match s.environment.lookup name with
      | some value => .ok (value.toList, s)
      | none => .error (.functionFailed "get_env" (.misuse (.noVariable name))) := by
  rw [variableNode, fillNode, evalExpr_call, evalCall_variable]
  cases s.environment.lookup name <;> rfl

namespace Pair

variable {environment : Environment} {p : Pair} {format : Format} {name : String}
  {pieces : List Piece}

/-- A layout that begins with a variable and is straight from there on. -/
theorem fill_variable
    (hsource : p.source format = ⟨none, variableNode name :: pieces.map Piece.node⟩)
    (hdepth : 0 < p.depth) (h : SlotsOnly pieces) (value : Slot → String) :
    p.fill environment format value =
      match environment.lookup name with
      | some s => .ok (String.ofList (s.toList ++ printedOf value pieces))
      | none => .error ⟨none, .functionFailed "get_env" (.misuse (.noVariable name))⟩ := by
  obtain ⟨depth, hd⟩ : ∃ d, p.depth = d + 1 := ⟨p.depth - 1, by omega⟩
  have hlookup : p.library.lookup format.fileName
      = some ⟨none, variableNode name :: pieces.map Piece.node⟩ := by
    rw [← hsource]
    cases format <;> rfl
  have hrest := fillNodes_node environment p.library depth format.fileName value h
  simp only [slotScope] at hrest
  simp only [fill, Layout.fill, hlookup, hd, hsource, Option.bind_none, Option.getD_none, fillNodes,
    fillNode_variable]
  cases environment.lookup name with
  | none => rfl
  | some s => simp only [bind, Except.bind, hrest, Except.map]

end Pair

namespace Template

/-- What a layout shows is also shown behind other text. -/
theorem missingSlot?_append {format : Format} {pieces : List Piece} (h : ShowsSlots format pieces)
    (before : List Char) :
    missingSlot? format (String.ofList (before ++ printedOf Slot.marker pieces)) = none := by
  rw [missingSlot?, List.find?_eq_none]
  intro slot _ hmissing
  simp only [String.toList_ofList, Bool.and_eq_true, Bool.not_eq_true'] at hmissing
  obtain ⟨hrequired, hnot⟩ := hmissing
  obtain ⟨tight, hm⟩ := h slot hrequired
  have hinfix : slot.marker.toList <:+: before ++ printedOf Slot.marker pieces :=
    (infix_printedOf hm Slot.marker).trans (List.suffix_append before _).isInfix
  rw [Text.isInfix_iff.mpr hinfix] at hnot
  exact absurd hnot (by simp)

/-- **A layout that prints a variable is accepted where the variable is set**, and nowhere else. -/
theorem load_variable {html text name : String} {p : Pair}
    {pieces pieces' : List Piece} (hread : Pair.ofTexts? html text = some p)
    (hhtml : p.html = ⟨none, variableNode name :: pieces.map Piece.node⟩)
    (htext : p.text = ⟨none, pieces'.map Piece.node⟩) (hdepth : 0 < p.depth)
    (hslots : SlotsOnly pieces) (hslots' : SlotsOnly pieces') (hshows : ShowsSlots .html pieces)
    (hshows' : ShowsSlots .text pieces') (environment : Environment) (product support : String) :
    load (.standard environment) html text product support =
      match environment.lookup name with
      | some _ => .ok ⟨p.fill environment, product, support⟩
      | none => .error (.failed .html none
          (.functionFailed "get_env" (.misuse (.noVariable name)))) := by
  have hsource : p.source .html = ⟨none, variableNode name :: pieces.map Piece.node⟩ := hhtml
  have hsource' : p.source .text = ⟨none, pieces'.map Piece.node⟩ := htext
  have hload : load (.standard environment) html text product support
      = (Template.mk (p.fill environment) product support).checked := by
    simp only [load, Engine.standard, hread, Option.map_some]
  rw [hload, checked, checkSlots, checkSlots, fill, fill]
  dsimp only
  rw [Pair.fill_variable hsource hdepth hslots,
    Pair.fill_straight environment hsource' hdepth hslots']
  cases environment.lookup name with
  | none => rfl
  | some site =>
    dsimp only
    simp only [bind, Except.bind, missingSlot?_append hshows, missingSlot?_straight hshows']

end Template

/-! ### A layout that needs a variable -/

/-- A layout that prints the variable `SITE` in front of its slots. -/
def siteChars : List Char :=
  "\x7b\x7b get_env(name='SITE') \x7d\x7d".toList ++ sourceOf bareSlots

theorem ofChars?_siteChars :
    Source.ofChars? siteChars = some ⟨none, variableNode "SITE" :: bareSlots.map Piece.node⟩ := by
  cbv

/-- With a plain text that prints nothing but its slots it needs the variable. -/
theorem Template.load_site {html text : String} (hhtml : html.toList = siteChars)
    (htext : text.toList = sourceOf bareSlots) (environment : Environment)
    (product support : String) :
    ∃ layouts, load (.standard environment) html text product support =
      match environment.lookup "SITE" with
      | some _ => .ok ⟨layouts, product, support⟩
      | none => .error (.failed .html none
          (.functionFailed "get_env" (.misuse (.noVariable "SITE")))) := by
  have hread : Pair.ofTexts? html text
      = some ⟨⟨none, variableNode "SITE" :: bareSlots.map Piece.node⟩,
          ⟨none, bareSlots.map Piece.node⟩, 8 * (html.length + text.length) + 64⟩ := by
    simp only [Pair.ofTexts?, hhtml, htext, ofChars?_siteChars,
      Source.ofChars?_sourceOf isStraight_bareSlots slotsOnly_bareSlots.hasPlainNames, basesExist,
      if_true]
  exact ⟨_, load_variable hread rfl rfl (by simp) slotsOnly_bareSlots slotsOnly_bareSlots
    (showsSlots_bareSlots .html) (showsSlots_bareSlots .text) environment product support⟩

end JobNotice.Layout
