import ServiceHost.Http.Router

/-!
# Characters of a target

What can be read as a target holds no control characters, neither in its path nor in its query.
So both may stand in a header field, and the location of a redirect can always be sent.

* `Target.Sendable.of_parse?` says this of every target that is read.
-/

namespace ServiceHost

/-- Whether a character may stand in the value of a header field. -/
def isHeaderChar (c : Char) : Bool := c == '\t' || (0x20 ≤ c.toNat && c.toNat != 0x7F)

theorem isHeaderValue_ofList (cs : List Char) :
    isHeaderValue (String.ofList cs) = cs.all isHeaderChar := by
  unfold isHeaderValue
  rw [String.toList_ofList]
  rfl

theorem isHeaderValue_append (a b : String) :
    isHeaderValue (a ++ b) = (isHeaderValue a && isHeaderValue b) := by
  unfold isHeaderValue
  rw [String.toList_append, List.all_append]

namespace Target

theorem isHeaderChar_of_isPathChar {c : Char} (h : isPathChar c = true) :
    isHeaderChar c = true := by
  simp only [isPathChar, Bool.or_eq_true, Bool.and_eq_true, beq_iff_eq, decide_eq_true_eq] at h
  simp only [isHeaderChar, Bool.or_eq_true, Bool.and_eq_true, decide_eq_true_eq, bne_iff_ne]
  -- no character of a path is below the blank, and none is the delete character
  right
  omega

theorem isHeaderChar_of_isQueryChar {c : Char} (h : isQueryChar c = true) :
    isHeaderChar c = true := by
  simp only [isQueryChar, Bool.or_eq_true, Bool.and_eq_true, beq_iff_eq, decide_eq_true_eq] at h
  simp only [isHeaderChar, Bool.or_eq_true, Bool.and_eq_true, decide_eq_true_eq, bne_iff_ne]
  right
  omega

/-- Path and query may stand in a header field. -/
structure Sendable (t : Target) : Prop where
  path : isHeaderValue t.path = true
  query : ∀ q ∈ t.query, isHeaderValue q = true

theorem Sendable.of_ofOrigin? {cs : List Char} {t : Target} (h : ofOrigin? cs = some t) :
    t.Sendable := by
  simp only [ofOrigin?, Bool.not_eq_true'] at h
  split at h
  · exact absurd h (by simp)
  · next hpath =>
    have hpath' : isHeaderValue (String.ofList (cs.takeWhile (!endsPath ·))) = true := by
      rw [isHeaderValue_ofList, List.all_eq_true]
      rw [Bool.not_eq_false, List.all_eq_true] at hpath
      exact fun c hc => isHeaderChar_of_isPathChar (hpath c hc)
    split at h
    · next rest _ =>
      -- behind the path there is a query, or a fragment that is left out
      split at h
      · next hquery =>
        obtain rfl := Option.some.inj h
        refine ⟨hpath', fun q hq => ?_⟩
        obtain rfl := Option.some.inj hq
        rw [isHeaderValue_ofList, List.all_eq_true]
        rw [List.all_eq_true] at hquery
        exact fun c hc => isHeaderChar_of_isQueryChar (hquery c hc)
      · exact absurd h (by simp)
    · obtain rfl := Option.some.inj h
      exact ⟨hpath', fun q hq => absurd hq (by simp)⟩

/-- The target of an authority is empty, or is read like any path behind it. -/
theorem Sendable.of_ofAuthority? {cs : List Char} {t : Target} (h : ofAuthority? cs = some t) :
    t.Sendable := by
  unfold ofAuthority? at h
  split at h
  · exact absurd h (by simp)
  · split at h
    · obtain rfl := Option.some.inj h
      exact ⟨by decide, fun q hq => absurd hq (by simp)⟩
    · exact absurd h (by simp)
  · split at h
    · obtain ⟨t', ht', rfl⟩ := Option.map_eq_some_iff.mp h
      have hs := Sendable.of_ofOrigin? ht'
      split
      · -- a slash stands for a path that is not there
        exact ⟨show isHeaderValue "/" = true by decide, hs.query⟩
      · exact hs
    · exact absurd h (by simp)

/-- **What is read can be sent.** A target that is read from a text holds no control
characters. -/
theorem Sendable.of_parse? {text : String} {t : Target} (h : parse? text = some t) :
    t.Sendable := by
  unfold parse? at h
  split at h
  · exact absurd h (by simp)
  · split at h
    · exact absurd h (by simp)
    · obtain rfl := Option.some.inj h
      exact ⟨by decide, fun q hq => absurd hq (by simp)⟩
    · -- the text begins with a slash
      exact Sendable.of_ofOrigin? h
    · exact Sendable.of_ofAuthority? h

end Target

/-- The location of a redirect from a path that can be sent can be sent too. -/
theorem Router.isHeaderValue_locationText {t : Target} (h : t.Sendable) :
    isHeaderValue (locationText (t.path ++ "/") t.query) = true := by
  have hpath : isHeaderValue (t.path ++ "/") = true := by
    rw [isHeaderValue_append, h.path]
    decide
  -- the query goes into the location as it is, behind a question mark
  cases hq : t.query with
  | none => exact hpath
  | some q =>
    have hquery := h.query q hq
    simp only [locationText, isHeaderValue_append, h.path, hquery]
    decide

end ServiceHost
