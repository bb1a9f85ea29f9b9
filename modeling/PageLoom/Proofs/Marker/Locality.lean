import PageLoom.Proofs.Marker.Grammar

set_option autoImplicit false

/-! # What the scan for the end of a marker sees

The scan begins behind an opening brace and stops at the brace that closes it. It looks one
character ahead for doubled braces and takes two at a backslash, but never looks behind the brace
at which it stops: a text with the same characters up to there is scanned alike
(`scan_of_agree`). So it does not matter whether a marker is looked at in its source, in the
body or alone. -/

namespace PageLoom
namespace Marker

/-- A text that starts like one with two characters at its front has these at its front. -/
theorem cons_cons_of_take {a b : Char} {n : Nat} {rest t' : Text}
    (h : (a :: b :: rest).take (n + 2) <+: t') :
    ∃ rest', t' = a :: b :: rest' ∧ rest.take n <+: rest' := by
  obtain ⟨_, rfl, hb⟩ := List.cons_prefix_iff.1 h
  obtain ⟨rest', rfl, hrest⟩ := List.cons_prefix_iff.1 hb
  exact ⟨rest', rfl, hrest⟩

/-- A character that begins no doubled brace before `rest` begins none before a text that starts
    like `rest`, as one character ahead is all that the scan looks at. -/
theorem scan_single_of_ahead {c : Char} {depth q : Nat} {rest rest' : Text}
    (hopen : ∀ r, c = '{' → rest = '{' :: r → False)
    (hclose : ∀ r, c = '}' → rest = '}' :: r → False) (hne : rest ≠ [])
    (hpre : rest.take (q + 2) <+: rest') :
    scan none depth (c :: rest') =
      (scan (if isQuote c then some c else none) depth rest').map (· + 1) := by
  obtain ⟨d, rest, rfl⟩ := List.exists_cons_of_ne_nil hne
  obtain ⟨rest', rfl, -⟩ := List.cons_prefix_iff.1 hpre
  refine scan_single depth ?_ ?_
  · rintro r hc heq
    exact hopen rest hc (by rw [(List.cons.inj heq).1])
  · rintro r hc heq
    exact hclose rest hc (by rw [(List.cons.inj heq).1])

/-- A text that goes on like the scanned one until behind the closing brace has that brace, too. -/
theorem scan_of_agree {quote : Option Char} {depth p : Nat} {t t' : Text}
    (h : scan quote depth t = some p) (hpre : t.take (p + 2) <+: t') :
    scan quote depth t' = some p := by
  -- Along the scan: what it reads in a step lies before the brace, so that both texts hold it.
  fun_induction scan quote depth t generalizing p t' with
  | case1 | case2 => cases h
  | case3 quote depth c rest ih =>
      obtain ⟨q, hq, rfl⟩ := Option.map_eq_some_iff.1 h
      obtain ⟨rest', rfl, hrest⟩ := cons_cons_of_take hpre
      rw [scan, ih hq hrest, Option.map_some]
  | case4 quote depth c rest hlone hesc ih =>
      obtain ⟨q, hq, rfl⟩ := Option.map_eq_some_iff.1 h
      obtain ⟨rest', rfl, hrest⟩ := List.cons_prefix_iff.1 hpre
      have hslash : c ≠ '\\' := by
        rintro rfl
        cases rest with
        | nil => exact hlone rfl rfl
        | cons d rest => exact hesc d rest rfl rfl
      rw [scan, ih hq hrest, Option.map_some]
      · exact fun hc => absurd hc hslash
      · exact fun _ _ hc => absurd hc hslash
  | case5 depth rest ih | case7 depth rest ih =>
      obtain ⟨q, hq, rfl⟩ := Option.map_eq_some_iff.1 h
      obtain ⟨rest', rfl, hrest⟩ := cons_cons_of_take hpre
      rw [scan, ih hq hrest, Option.map_some]
  | case6 rest =>
      obtain rfl := Option.some.inj h
      obtain ⟨rest', rfl, -⟩ := cons_cons_of_take hpre
      rfl
  | case8 depth c rest hopen hzero hsucc ih =>
      obtain ⟨q, hq, rfl⟩ := Option.map_eq_some_iff.1 h
      obtain ⟨rest', rfl, hrest⟩ := List.cons_prefix_iff.1 hpre
      have hclose : ∀ r, c = '}' → rest = '}' :: r → False := by
        cases depth with
        | zero => exact fun r => hzero r rfl
        | succ depth => exact fun r => hsucc depth r rfl
      have hne : rest ≠ [] := by
        rintro rfl
        cases hq
      rw [scan_single_of_ahead hopen hclose hne hrest, ih hq hrest, Option.map_some]

/-- Texts that agree on the characters of a stretch begin alike where it begins. -/
theorem take_drop_prefix_of_agree {t t' : Text} {start n : Nat}
    (h : ∀ i, start ≤ i → i < start + n → t'[i]? = t[i]?) :
    (t.drop start).take n <+: t'.drop start := by
  refine List.prefix_iff_getElem?.2 fun i hi => ?_
  rw [List.length_take] at hi
  rw [List.getElem?_drop, h (start + i) (by omega) (by omega), List.getElem_take,
    List.getElem_drop, List.getElem?_eq_getElem]

theorem close?_of_agree {t t' : Text} {start p : Nat} (h : close? t start = some p)
    (hagree : ∀ i, start ≤ i → i ≤ p + 1 → t'[i]? = t[i]?) : close? t' start = some p := by
  obtain ⟨q, hq, rfl⟩ := Option.map_eq_some_iff.1 h
  have hpre : (t.drop start).take (q + 2) <+: t'.drop start :=
    take_drop_prefix_of_agree fun i hi hlt => hagree i hi (by omega)
  rw [close?, scan_of_agree hq hpre, Option.map_some]

/-- **The scan sees its marker only.** Behind another text it finds the same brace, moved by the
    length of that text, or none if there was none; and it finds the same brace in every text with
    the same characters from its start to that brace, such as a longer one or one that ends
    there. -/
theorem close?_sees_marker_only (t : Text) (start : Nat) :
    (∀ u, close? (u ++ t) (u.length + start) = (close? t start).map (u.length + ·)) ∧
      ∀ p, close? t start = some p →
        (∀ t' : Text, (∀ i, start ≤ i → i ≤ p + 1 → t'[i]? = t[i]?) → close? t' start = some p) ∧
          (∀ v, close? (t ++ v) start = some p) ∧ close? (t.take (p + 2)) start = some p := by
  refine ⟨fun u => ?_, fun p h => ⟨fun t' => close?_of_agree h, fun v => ?_, ?_⟩⟩
  · rw [close?_append_left]
    exact Option.map_congr fun p _ => Nat.add_comm p u.length
  · have hlen := add_two_le_length_of_close? h
    refine close?_of_agree h fun i _ hi => ?_
    rw [List.getElem?_append_left (by omega)]
  · refine close?_of_agree h fun i _ hi => ?_
    rw [List.getElem?_take_of_lt (by omega)]

/-- Other texts around the marker, with the same characters in between. -/
def bracesElsewhere : Text := opening ++ (braces.drop 2).take 14 ++ "'"

theorem close?_around_braces :
    close? braces 2 = some 14 ∧ close? ("<p>" ++ braces) 5 = some 17 ∧
      (∀ i, 2 ≤ i → i ≤ 14 + 1 → bracesElsewhere[i]? = braces[i]?) ∧
      close? bracesElsewhere 2 = some 14 ∧
      (∀ v, close? (braces ++ v) 2 = some 14) ∧ close? (braces.take 16) 2 = some 14 := by
  obtain ⟨hmoved, hfound⟩ := close?_sees_marker_only braces 2
  have hclose : close? braces 2 = some 14 := by decide
  have hsame : ∀ i ≤ 15, 2 ≤ i → bracesElsewhere[i]? = braces[i]? := by decide
  have hagree : ∀ i, 2 ≤ i → i ≤ 14 + 1 → bracesElsewhere[i]? = braces[i]? :=
    fun i hi hle => hsame i hle hi
  obtain ⟨helsewhere, hlonger, hcut⟩ := hfound 14 hclose
  exact ⟨hclose, (hmoved "<p>").trans (by rw [hclose]; rfl), hagree, helsewhere _ hagree, hlonger,
    hcut⟩

end Marker
end PageLoom
