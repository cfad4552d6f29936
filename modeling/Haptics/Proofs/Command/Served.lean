import Haptics.Command.Payload
import Haptics.Proofs.Text.Blank
import Haptics.Proofs.Text.Boundary

/-!
# What a client is served

A client is served by one read, of a limited size, and the effect asked for is the one that this read names.
Unless the read breaks off within the first word of the payload, it is the one that the payload names as a
whole (`serve_payload`). A read that does break off there is taken for the whole word (`serve_payload_cut`).
-/

namespace Haptics.Command

open Text

/-- Whether what was read of a payload holds its first word to the end: it is all of the payload, or it has
the word and stops at the white space behind it, or goes beyond. -/
def HoldsWord (payload message : Bytes) : Prop :=
  message = payload ∨ ∃ front c rest, payload = front ++ String.utf8EncodeChar c ++ rest ∧
    isBlank c = true ∧ firstWord? (decodeLossy front) ≠ none ∧
    (message = front ∨ front ++ String.utf8EncodeChar c <+: message)

/-- Whether what was read of a payload breaks off within its first word: behind white space there is nothing
but the word, and the payload goes on with something else than white space. -/
def BreaksOff (payload message : Bytes) : Prop :=
  firstWord? (decodeLossy message) = some (trimLeft (decodeLossy message)) ∧
    ∃ more, payload = message ++ more ∧ more ≠ [] ∧
      ∀ c, isBlank c = true → ¬ String.utf8EncodeChar c <+: more

variable {payload message : Bytes}

theorem parse?_of_blank {front : Bytes} {c : Char} (hc : isBlank c = true)
    (hw : firstWord? (decodeLossy front) ≠ none) (rest : Bytes) :
    parse? (front ++ String.utf8EncodeChar c ++ rest) = parse? front := by
  rw [parse?, firstWord?_decodeLossy hc hw, parse?]

theorem HoldsWord.parse?_eq (h : HoldsWord payload message) : parse? message = parse? payload := by
  obtain rfl | ⟨front, c, rest, rfl, hc, hw, rfl | ⟨more, rfl⟩⟩ := h
  · rfl
  · exact (parse?_of_blank hc hw rest).symm
  · rw [parse?_of_blank hc hw, parse?_of_blank hc hw]

theorem ne_replacement {c : Char} (hc : isBlank c = true) : c ≠ replacement := by
  rintro rfl
  exact absurd hc (by decide)

/-- A read with a word in it has the first word of the payload to its end, or breaks off within it. -/
theorem holdsWord_or_breaksOff (h : message <+: payload) (hw : firstWord? (decodeLossy message) ≠ none) :
    HoldsWord payload message ∨ BreaksOff payload message := by
  obtain ⟨more, rfl⟩ := h
  obtain ⟨word, hword⟩ := Option.ne_none_iff_exists'.1 hw
  obtain ⟨before, after, hletters, hbefore, hne, hclear, hafter⟩ := firstWord?_eq_some_iff.1 hword
  cases after with
  | nil =>
    have htrim : trimLeft (decodeLossy message) = word := by
      rw [hletters, List.append_nil, trimLeft_append hbefore, trimLeft_eq_self (head?_any_of_forall hclear)]
    by_cases hmore : more = []
    · exact .inl (.inl (by rw [hmore, List.append_nil]))
    by_cases hblank : ∃ c, isBlank c = true ∧ String.utf8EncodeChar c <+: more
    · obtain ⟨c, hc, rest, rfl⟩ := hblank
      exact .inl (.inr ⟨message, c, rest, (List.append_assoc _ _ _).symm, hc, hw, .inl rfl⟩)
    · exact .inr ⟨by rw [hword, htrim], more, rfl, hmore, fun c hc hp => hblank ⟨c, hc, hp⟩⟩
  | cons c after =>
    -- white space stands behind the word, so the octets that were read have it there as well
    have hc : isBlank c = true := hafter c rfl
    obtain ⟨front, rest, rfl, hfront⟩ := exists_of_decodeLossy_eq (ne_replacement hc) hletters
    have hfirst : firstWord? (decodeLossy front) = some word := by
      rw [hfront]
      exact firstWord?_eq_some_iff.2 ⟨before, [], by simp, hbefore, hne, hclear, by simp⟩
    refine .inl (.inr ⟨front, c, rest ++ more, List.append_assoc _ _ _, hc, ?_, .inr ⟨rest, rfl⟩⟩)
    rw [hfirst]
    exact Option.some_ne_none word

theorem parse?_of_prefix {n : Int64} (h : message <+: payload) (hn : parse? message = some n) :
    BreaksOff payload message ∨ parse? payload = some n := by
  have hw : firstWord? (decodeLossy message) ≠ none := by
    intro hnone
    rw [parse?, hnone] at hn
    cases hn
  rcases holdsWord_or_breaksOff h hw with hword | hbreak
  · exact .inr (hword.parse?_eq.symm.trans hn)
  · exact .inl hbreak

/-- What serving a payload as a whole comes to: the effect that it names is asked for, if it names one. -/
def Asks (payload : Bytes) (inbox : Inbox) (served : Option Receipt × Inbox) : Prop :=
  (parse? payload = none → served = (none, inbox)) ∧
    ∀ n, parse? payload = some n → served = (some (inbox.request n).1, (inbox.request n).2)

theorem hear_of_none (h : parse? message = none) (inbox : Inbox) : hear message inbox = (none, inbox) := by
  rw [hear, h]

theorem hear_of_some {n : Int64} (h : parse? message = some n) (inbox : Inbox) :
    hear message inbox = (some (inbox.request n).1, (inbox.request n).2) := by
  rw [hear, h]

theorem asks_hear (message : Bytes) (inbox : Inbox) : Asks message inbox (hear message inbox) :=
  ⟨fun h => hear_of_none h inbox, fun _ h => hear_of_some h inbox⟩

theorem HoldsWord.asks (h : HoldsWord payload message) (inbox : Inbox) :
    Asks payload inbox (hear message inbox) := by
  rw [Asks, ← h.parse?_eq]
  exact asks_hear message inbox

/-- The first read gives the beginning of the payload, and no more of it than there is room for. -/
theorem firstRead_portions (portions : List Bytes) :
    ∃ message, firstRead (portions.map .ok) = .ok message ∧ message <+: portions.flatten ∧
      message.length ≤ messageLimit := by
  cases portions with
  | nil => exact ⟨[], rfl, List.nil_prefix, Nat.zero_le _⟩
  | cons portion portions =>
    refine ⟨portion.take messageLimit, rfl, ?_, ?_⟩
    · rw [List.flatten_cons]
      exact (List.take_prefix _ _).trans (List.prefix_append _ _)
    · rw [List.length_take]
      exact Nat.min_le_left _ _

/-- In whatever portions a payload arrives, one read is made, of at most as much as there is room for, and at
most one effect is asked for: the one that this read names, and none if it names none. It is the one that the
payload names as a whole, unless the read breaks off within the first word of the payload. If the read holds
this word to its end, the effect that the payload names is asked for, and none if it names none. -/
theorem serve_payload (portions : List Bytes) (inbox : Inbox) :
    let payload := portions.flatten
    let served := serve (portions.map .ok) inbox
    (served = (none, inbox) ∨ ∃ n, served = (some (inbox.request n).1, (inbox.request n).2)) ∧
      ∃ message, firstRead (portions.map .ok) = .ok message ∧ message <+: payload ∧
        message.length ≤ messageLimit ∧ Asks message inbox served ∧
        (∀ n, parse? message = some n → BreaksOff payload message ∨ parse? payload = some n) ∧
        (HoldsWord payload message → Asks payload inbox served) := by
  intro payload served
  obtain ⟨message, hread, hprefix, hlength⟩ := firstRead_portions portions
  have hserved : served = hear message inbox := by
    show serve (portions.map .ok) inbox = hear message inbox
    rw [serve, hread]
  rw [hserved]
  refine ⟨?_, message, hread, hprefix, hlength, asks_hear message inbox,
    fun n hn => parse?_of_prefix hprefix hn, fun hword => hword.asks inbox⟩
  rcases hp : parse? message with _ | n
  · exact .inl (hear_of_none hp inbox)
  · exact .inr ⟨n, hear_of_some hp inbox⟩

/-- A number with blanks around it, of which a second portion brings more. -/
theorem serve_payload_blank :
    let inbox : Inbox := ⟨1, [], false, 0, 0⟩
    HoldsWord [32, 49, 50, 0xC2, 0xA0, 51, 10] [32, 49, 50, 0xC2, 0xA0] ∧
      serve [.ok [32, 49, 50, 0xC2, 0xA0], .ok [51, 10]] inbox =
        (some .accepted, { inbox with waiting := [⟨12⟩], accepted := 1 }) := by
  intro inbox
  have hword : HoldsWord [32, 49, 50, 0xC2, 0xA0, 51, 10] [32, 49, 50, 0xC2, 0xA0] :=
    .inr ⟨[32, 49, 50], Char.ofNat 0xA0, [51, 10], by decide +kernel, by decide +kernel, by decide +kernel,
      .inr (by decide +kernel)⟩
  have hn : parse? [32, 49, 50, 0xC2, 0xA0, 51, 10] = some 12 := by decide +kernel
  obtain ⟨-, message, hread, -, -, -, -, hserved⟩ := serve_payload [[32, 49, 50, 0xC2, 0xA0], [51, 10]] inbox
  obtain rfl := Except.ok.inj hread
  exact ⟨hword, (hserved hword).2 12 hn⟩

/-- The number 12 behind as many blanks as leave room for its first digit only, and the number 12 of which the
second digit comes later: the effect 1 is asked for. So it is not always the payload as a whole that counts. -/
theorem serve_payload_cut :
    let long : Bytes := encode (List.replicate 127 ' ' ++ ['1', '2'])
    let inbox : Inbox := ⟨1, [], false, 0, 0⟩
    parse? long = some 12 ∧
      serve [.ok long] inbox = (some .accepted, { inbox with waiting := [⟨1⟩], accepted := 1 }) ∧
      parse? [49, 50, 10] = some 12 ∧
      serve [.ok [49], .ok [50, 10]] inbox =
        (some .accepted, { inbox with waiting := [⟨1⟩], accepted := 1 }) ∧
      ¬ ∀ (portions : List Bytes) (inbox : Inbox), serve (portions.map .ok) inbox = (none, inbox) ∨
        ∃ n, parse? portions.flatten = some n ∧
          serve (portions.map .ok) inbox = (some (inbox.request n).1, (inbox.request n).2) := by
  intro long inbox
  have hlong : parse? long = some 12 := by
    rw [parse?, decodeLossy_encode]
    decide
  have hmessage : parse? (long.take messageLimit) = some 1 := by
    have htake : long.take messageLimit = encode (List.replicate 127 ' ' ++ ['1']) := by decide
    rw [htake, parse?, decodeLossy_encode]
    decide
  have hwhole : parse? [49, 50, 10] = some 12 := by decide +kernel
  have hfirst : parse? [49] = some 1 := by decide +kernel
  have hearly : serve [.ok [49], .ok [50, 10]] inbox =
      (some .accepted, { inbox with waiting := [⟨1⟩], accepted := 1 }) := hear_of_some hfirst inbox
  refine ⟨hlong, hear_of_some hmessage inbox, hwhole, hearly, fun h => ?_⟩
  rcases h [[49], [50, 10]] inbox with hnone | ⟨n, hn, hserved⟩
  · exact absurd (hearly.symm.trans hnone) (by decide)
  · obtain rfl := Option.some.inj (hwhole.symm.trans hn)
    exact absurd (hearly.symm.trans hserved) (by decide)

end Haptics.Command
