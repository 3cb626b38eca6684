import Ninefold.Text.LineEnd

/-!
# What is left of a line end

A buffer that ends in no line feed is its own text. A text printed with a line
feed behind it is found again unless it ends in a carriage return, which is
taken for a part of the line end.
-/

namespace Ninefold.Text

theorem dropLineEnd_crlf (t : Text) : (t ++ ['\r', '\n']).dropLineEnd = t := by
  simp [dropLineEnd]

theorem dropLineEnd_lineFeed {t : Text} (h : t.getLast? ≠ some '\r') :
    (t ++ ['\n']).dropLineEnd = t := by
  rw [List.getLast?_eq_head?_reverse] at h
  rw [dropLineEnd, List.reverse_append]
  split
  next before hcrlf =>
    obtain hreverse : t.reverse = '\r' :: before := by simpa using hcrlf
    simp [hreverse] at h
  next before _ hfeed =>
    obtain rfl : t.reverse = before := by simpa using hfeed
    exact List.reverse_reverse t
  next hnone => exact absurd rfl (hnone _)

/-- The line feed behind a text is dropped and nothing else, unless the text
ends in a carriage return. -/
theorem dropLineEnd_lineFeed_eq_iff {t : Text} :
    (t ++ ['\n']).dropLineEnd = t ↔ t.getLast? ≠ some '\r' := by
  refine ⟨fun h hreturn => ?_, dropLineEnd_lineFeed⟩
  obtain ⟨front, rfl⟩ := List.getLast?_eq_some_iff.mp hreturn
  rw [List.append_assoc, List.singleton_append, dropLineEnd_crlf] at h
  simpa using congrArg List.length h

theorem dropLineEnd_lineFeed_prefix (t : Text) : (t ++ ['\n']).dropLineEnd <+: t := by
  by_cases hreturn : t.getLast? = some '\r'
  · obtain ⟨front, rfl⟩ := List.getLast?_eq_some_iff.mp hreturn
    rw [List.append_assoc, List.singleton_append, dropLineEnd_crlf]
    exact List.prefix_append front _
  · exact ⟨[], by rw [List.append_nil, dropLineEnd_lineFeed hreturn]⟩

theorem dropLineEnd_of_getLast? {t : Text} (h : t.getLast? ≠ some '\n') : t.dropLineEnd = t := by
  rw [List.getLast?_eq_head?_reverse] at h
  rw [dropLineEnd]
  split
  next hcrlf => simp [hcrlf] at h
  next hfeed => simp [hfeed] at h
  next => rfl

/-- A buffer that ends in a line feed loses it. -/
theorem dropLineEnd_eq_self_iff {t : Text} : t.dropLineEnd = t ↔ t.getLast? ≠ some '\n' := by
  refine ⟨fun h hfeed => ?_, dropLineEnd_of_getLast?⟩
  obtain ⟨front, rfl⟩ := List.getLast?_eq_some_iff.mp hfeed
  by_cases hreturn : front.getLast? = some '\r'
  · obtain ⟨front, rfl⟩ := List.getLast?_eq_some_iff.mp hreturn
    rw [List.append_assoc, List.singleton_append, dropLineEnd_crlf] at h
    simpa using congrArg List.length h
  · rw [dropLineEnd_lineFeed hreturn] at h
    simpa using congrArg List.length h

end Ninefold.Text
