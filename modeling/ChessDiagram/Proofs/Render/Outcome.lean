import ChessDiagram.Config.Validation
import ChessDiagram.Proofs.Markdown.Idempotence
import ChessDiagram.Proofs.Number.Order

/-!
# What can go wrong

Whether anything renders depends on the configuration alone.  Either every diagram, every source and
every document renders, or each of them fails with one and the same error, apart from documents that
hold no diagram.  The check of a configuration accepts exactly those of the first kind.
-/

namespace ChessDiagram

/-- The tones of a theme as they are written. -/
def Theme.toneText : Theme → Tone → Text
  | .base, .light => "bisque"
  | .base, .dark => "olivedrab"
  | .dark, .light => "#b0b0b0"
  | .dark, .dark => "#4a4a4a"
  | .light, .light => "#f0d9b5"
  | .light, .dark => "#b58863"

theorem Theme.ofText_toneText (theme : Theme) :
    Color.ofText (theme.toneText .light) = .ok (Palette.ofTheme theme).light ∧
      Color.ofText (theme.toneText .dark) = .ok (Palette.ofTheme theme).dark := by
  cases theme <;> exact ⟨rfl, rfl⟩

namespace Markdown

/-- At least one part of a document is a diagram block. -/
def HoldsDiagram (document : Text) : Prop :=
  ∃ part ∈ parts (Text.segments document), part.isDiagram = true

theorem Part.exists_written (config : Config) {part : Part} (kept : part.isDiagram = false) :
    ∃ written, part.render config = .ok written := by
  cases part with
  | copied line => exact ⟨line, rfl⟩
  | code lines => exact ⟨lines.flatten, rfl⟩
  | diagram enclosure source ending => cases kept

theorem Part.render_eq_error {config : Config} {error : RenderError}
    (fails : ∀ source, config.render source = .error error) {part : Part}
    (diagram : part.isDiagram = true) : part.render config = .error error := by
  cases part with
  | copied line => cases diagram
  | code lines => cases diagram
  | diagram enclosure source ending =>
      rw [Part.render, fails]
      rfl

/-- The first diagram block makes a document fail. -/
theorem renderParts_eq_error {config : Config} {error : RenderError}
    (fails : ∀ source, config.render source = .error error) {parts : List Part}
    (diagram : ∃ part ∈ parts, part.isDiagram = true) :
    renderParts config parts = .error error := by
  obtain ⟨part, member, isDiagram⟩ := diagram
  induction parts with
  | nil => cases member
  | cons first others induction =>
      rw [renderParts_cons]
      cases firstKind : first.isDiagram with
      | true =>
          rw [Part.render_eq_error fails firstKind]
          rfl
      | false =>
          obtain ⟨written, rendered⟩ := Part.exists_written config firstKind
          rcases List.mem_cons.mp member with rfl | later
          · cases firstKind.symm.trans isDiagram
          · rw [rendered, induction later]
            rfl

theorem render_of_not_holdsDiagram (config : Config) {document : Text}
    (noDiagram : ¬ HoldsDiagram document) : render config document = .ok document := by
  have others : ∀ part ∈ parts (Text.segments document), part.isDiagram = false :=
    fun part member => Bool.eq_false_iff.mpr fun isDiagram => noDiagram ⟨part, member, isDiagram⟩
  rw [render_eq_renderParts, renderParts_of_noDiagram config others, Text.flatten_segments]

end Markdown

namespace Config

variable {config : Config} {error : RenderError}

/-- A tone that is left to the themes, or given by the text of a colour. -/
def Understands (config : Config) (tone : Tone) : Prop :=
  ∀ text, config.toneText? tone = some text → ∃ color, Color.ofText text = .ok color

/-- The canvas has a width, and it is above zero. -/
def HasCanvas (config : Config) : Prop :=
  ∃ width, config.canvas.value? = some width ∧ 0 < width

/-- The first fault of a configuration: the light tone, then the dark tone, then the canvas. -/
inductive Fault (config : Config) : RenderError → Prop where
  | light {text : Text} {error : Color.Error} :
      config.lightSquare = some text →
      Color.ofText text = .error error →
      Fault config (.tone { tone := .light, error })
  | dark {text : Text} {error : Color.Error} :
      config.Understands .light →
      config.darkSquare = some text →
      Color.ofText text = .error error →
      Fault config (.tone { tone := .dark, error })
  | canvas :
      config.Understands .light →
      config.Understands .dark →
      ¬ config.HasCanvas →
      Fault config (.canvas config.canvas)

/-- Everything renders, and the check of the configuration agrees. -/
structure RendersAll (config : Config) : Prop where
  accepts : config.validate = .ok ()
  boards : ∀ diagram, ∃ board, config.renderBoard diagram = .ok board
  fragments : ∀ diagram, ∃ fragment, config.renderFragment diagram = .ok fragment
  sources : ∀ source, ∃ fragment, config.render source = .ok fragment
  documents : ∀ document, ∃ output, Markdown.render config document = .ok output

/-- Nothing renders but documents without diagrams, and the check of the configuration agrees.  It
looks at the canvas before the tones. -/
structure FailsWith (config : Config) (error : RenderError) : Prop where
  rejects : config.validate =
    .error (if config.canvas.isPositive then error else .canvas config.canvas)
  boards : ∀ diagram, config.renderBoard diagram = .error error
  fragments : ∀ diagram, config.renderFragment diagram = .error error
  sources : ∀ source, config.render source = .error error
  documents : ∀ document, Markdown.HoldsDiagram document →
    Markdown.render config document = .error error
  otherDocuments : ∀ document, ¬ Markdown.HoldsDiagram document →
    Markdown.render config document = .ok document

theorem understands_iff {tone : Tone} :
    config.Understands tone ↔ ∃ color, config.tone tone = .ok color := by
  unfold Understands Config.tone
  cases config.toneText? tone with
  | none => simp
  | some text =>
      simp only [Option.some.injEq, forall_eq']
      cases Color.ofText text <;> simp

theorem tone_eq_error (tone : Tone) {text : Text} {error : Color.Error}
    (given : config.toneText? tone = some text) (noColor : Color.ofText text = .error error) :
    config.tone tone = .error { tone, error } := by
  rw [Config.tone, given]
  simp only [noColor]

theorem understands_or_error (config : Config) (tone : Tone) :
    config.Understands tone ∨
      ∃ text error, config.toneText? tone = some text ∧ Color.ofText text = .error error := by
  unfold Understands
  cases config.toneText? tone with
  | none => simp
  | some text =>
      cases read : Color.ofText text with
      | ok color =>
          left
          rintro _ ⟨⟩
          exact ⟨color, read⟩
      | error error => exact .inr ⟨text, error, rfl, read⟩

theorem hasCanvas_iff : config.HasCanvas ↔ config.canvas.isPositive = true :=
  Floating.isPositive_iff.symm

theorem sound_or_fault (config : Config) :
    (config.Understands .light ∧ config.Understands .dark ∧ config.HasCanvas) ∨
      ∃ error, config.Fault error := by
  rcases understands_or_error config .light with light | ⟨text, error, given, noColor⟩
  · rcases understands_or_error config .dark with dark | ⟨text, error, given, noColor⟩
    · by_cases canvas : config.HasCanvas
      · exact .inl ⟨light, dark, canvas⟩
      · exact .inr ⟨_, .canvas light dark canvas⟩
    · exact .inr ⟨_, .dark light given noColor⟩
  · exact .inr ⟨_, .light given noColor⟩

theorem rendersAll_of_sound (light : config.Understands .light) (dark : config.Understands .dark)
    (canvas : config.HasCanvas) : config.RendersAll := by
  obtain ⟨lightTone, lightFound⟩ := understands_iff.mp light
  obtain ⟨darkTone, darkFound⟩ := understands_iff.mp dark
  have positive := hasCanvas_iff.mp canvas
  have drawn := board_eq_document lightFound darkFound positive
  have fragments (diagram : Diagram) :
      ∃ fragment, config.renderFragment diagram = .ok fragment := by
    rw [renderFragment, drawn]
    exact ⟨_, rfl⟩
  refine ⟨?_, ?_, fragments, fun source => fragments (Notation.diagram source), ?_⟩
  · simp only [validate, positive, lightFound, darkFound]
    rfl
  · intro diagram
    rw [renderBoard, drawn]
    exact ⟨_, rfl⟩
  · intro document
    rw [Markdown.render_eq_renderParts]
    exact Markdown.exists_renderParts (fun source => fragments (Notation.diagram source)) _

theorem board_eq_error (fault : config.Fault error) (diagram : Diagram) :
    config.board diagram = .error error := by
  unfold Config.board Config.override Board.draw?
  cases fault with
  | light given noColor =>
      simp only [tone_eq_error .light given noColor]
      rfl
  | dark light given noColor =>
      obtain ⟨lightTone, lightFound⟩ := understands_iff.mp light
      simp only [lightFound, tone_eq_error .dark given noColor]
      rfl
  | canvas light dark noCanvas =>
      obtain ⟨lightTone, lightFound⟩ := understands_iff.mp light
      obtain ⟨darkTone, darkFound⟩ := understands_iff.mp dark
      simp only [lightFound, darkFound, if_neg (hasCanvas_iff.not.mp noCanvas)]
      rfl

theorem validate_eq_error (fault : config.Fault error) :
    config.validate =
      .error (if config.canvas.isPositive then error else .canvas config.canvas) := by
  unfold validate
  split
  · rename_i positive
    -- Behind an accepted canvas the tones are checked in the order in which a palette takes them.
    cases fault with
    | light given noColor =>
        simp only [tone_eq_error .light given noColor]
        rfl
    | dark light given noColor =>
        obtain ⟨lightTone, lightFound⟩ := understands_iff.mp light
        simp only [lightFound, tone_eq_error .dark given noColor]
        rfl
    | canvas light dark noCanvas => exact (noCanvas (hasCanvas_iff.mpr positive)).elim
  · rfl

theorem failsWith_of_fault (fault : config.Fault error) : config.FailsWith error := by
  have undrawn := board_eq_error fault
  have fragments (diagram : Diagram) : config.renderFragment diagram = .error error := by
    rw [renderFragment, undrawn]
    rfl
  refine ⟨validate_eq_error fault, ?_, fragments,
    fun source => fragments (Notation.diagram source), ?_, ?_⟩
  · intro diagram
    rw [renderBoard, undrawn]
    rfl
  · intro document diagram
    rw [Markdown.render_eq_renderParts]
    exact Markdown.renderParts_eq_error (fun source => fragments (Notation.diagram source)) diagram
  · exact fun document noDiagram => Markdown.render_of_not_holdsDiagram config noDiagram

theorem FailsWith.unique {other : RenderError} (fails : config.FailsWith error)
    (otherFails : config.FailsWith other) : other = error :=
  Except.error.inj ((otherFails.boards {}).symm.trans (fails.boards {}))

theorem RendersAll.not_failsWith (renders : config.RendersAll) : ¬ config.FailsWith error := by
  intro fails
  obtain ⟨board, drawn⟩ := renders.boards {}
  cases drawn.symm.trans (fails.boards {})

/-- Either everything renders, or the configuration has one fault that everything fails with.  The
default configuration is of the first kind, and the tones that it takes from the themes are colours
as they are written. -/
theorem rendersAll_xor_failsWith (config : Config) :
    Xor config.RendersAll (∃! error, config.Fault error ∧ config.FailsWith error) ∧
      Config.RendersAll {} ∧
      ∀ theme : Theme,
        Color.ofText (theme.toneText .light) = .ok (Palette.ofTheme theme).light ∧
          Color.ofText (theme.toneText .dark) = .ok (Palette.ofTheme theme).dark := by
  refine ⟨?_, ?_, Theme.ofText_toneText⟩
  · rcases sound_or_fault config with ⟨light, dark, canvas⟩ | ⟨error, fault⟩
    · have renders := rendersAll_of_sound light dark canvas
      exact .inl ⟨renders, fun ⟨_, ⟨_, fails⟩, _⟩ => renders.not_failsWith fails⟩
    · have fails := failsWith_of_fault fault
      exact .inr ⟨⟨error, ⟨fault, fails⟩, fun _ other => fails.unique other.2⟩,
        fun renders => renders.not_failsWith fails⟩
  · have noTone (tone : Tone) : Config.Understands {} tone := by
      intro text given
      cases tone <;> cases given
    exact rendersAll_of_sound (noTone .light) (noTone .dark) (hasCanvas_iff.mpr (by decide +kernel))

end Config

end ChessDiagram
