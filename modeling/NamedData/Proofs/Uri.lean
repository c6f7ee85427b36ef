/-
The URI of a name, with anything that may stand around it, reads as that name.

Reading takes blanks, scheme, authority and query away in this order, and each step could take too
much.  It does not, because a component is written with few characters (`Percent.isWritten`), none
of which is a slash, begins a query or is blank, and because no component is written as nothing.

* `Text.trim_append` — trimming stops at a text that neither begins nor ends with a blank;
* `Name.path_append` — what is left of a URI is the name's own part of it;
* `Name.pieces_uriChars` — and that falls into the written components again;
* `Name.ofUri_around_uri` — so names read back, whatever stands in front and behind, as do the names
  in the texts of packets.
-/
import NamedData.Packet.Announcement
import NamedData.Packet.LegacyHint
import NamedData.Packet.Vicinity
import NamedData.Proofs.Element

namespace NamedData

/-! ### Written components -/

namespace Percent

/-- The characters that bytes are written with: letters, digits, the four marks, and the percent
sign. -/
def isWritten (c : Char) : Bool :=
  let n := c.toNat
  n == 37 || n == 45 || n == 46 || n == 95 || n == 126 || (48 ≤ n && n ≤ 57) ||
    (65 ≤ n && n ≤ 90) || (97 ≤ n && n ≤ 122)

theorem isWritten_of_mem_encodeByte {b : UInt8} {c : Char} (h : c ∈ encodeByte b) :
    isWritten c = true := by
  have all : ∀ n : Fin 256, (encodeByte (UInt8.ofNat n.val)).all isWritten = true := by
    decide +kernel
  have := all ⟨b.toNat, b.toNat_lt⟩
  rw [UInt8.ofNat_toNat, List.all_eq_true] at this
  exact this c h

theorem isWritten_of_mem_encode {bs : Bytes} {c : Char} (h : c ∈ encode bs) :
    isWritten c = true := by
  obtain ⟨b, -, hc⟩ := List.mem_flatMap.mp h
  exact isWritten_of_mem_encodeByte hc

theorem not_isBlank_of_isWritten {c : Char} (h : isWritten c = true) : Text.isBlank c = false := by
  simp only [isWritten, Bool.or_eq_true, Bool.and_eq_true, beq_iff_eq, decide_eq_true_eq] at h
  simp only [Text.isBlank, Bool.or_eq_false_iff, Bool.and_eq_false_iff, beq_eq_false_iff_ne,
    decide_eq_false_iff_not]
  omega

theorem encode_ne_nil {bs : Bytes} (h : bs ≠ []) : encode bs ≠ [] := by
  obtain ⟨b, bs, rfl⟩ := List.exists_cons_of_ne_nil h
  rw [encode, List.flatMap_cons, encodeByte]
  split <;> simp

end Percent

namespace Component

theorem isWritten_of_mem_uriChars {c : Component} {ch : Char} (h : ch ∈ c.uriChars) :
    Percent.isWritten ch = true := by
  rcases List.mem_append.mp h with periods | written
  · split at periods
    · have : ch = '.' := by simpa using periods
      rw [this]
      rfl
    · cases periods
  · exact Percent.isWritten_of_mem_encode written

/-- Even the component without bytes is written with something: with three periods. -/
theorem uriChars_ne_nil (c : Component) : c.uriChars ≠ [] := by
  intro h
  obtain ⟨periods, written⟩ := List.append_eq_nil_iff.mp h
  by_cases none : c.value = []
  · rw [none] at periods
    cases periods
  · exact Percent.encode_ne_nil none written

end Component

/-! ### Trimming and cutting -/

namespace Text

theorem trimStart_append_cons {c : Char} (h : isBlank c = false) (front behind : List Char) :
    trimStart (front ++ c :: behind) = trimStart front ++ c :: behind := by
  have stop : (c :: behind).dropWhile isBlank = c :: behind :=
    List.dropWhile_cons_of_neg (by simp [h])
  rw [trimStart, List.dropWhile_append, stop, trimStart]
  split
  · rename_i empty
    rw [List.isEmpty_iff.mp empty]
    rfl
  · rfl

/-- A text that neither begins nor ends with a blank stays whole, and of what follows it trimming
takes only from the end. -/
theorem trim_append {front cs ds : List Char} {c d : Char} (begins : front = c :: cs)
    (ends : front = ds ++ [d]) (hc : isBlank c = false) (hd : isBlank d = false)
    (tail : List Char) : ∃ rest, trim (front ++ tail) = front ++ rest ∧ rest <+: tail := by
  refine ⟨(trimStart tail.reverse).reverse, ?_, ?_⟩
  · have start : trimStart (front ++ tail) = front ++ tail := by
      have := trimStart_append_cons hc [] (cs ++ tail)
      rwa [begins]
    have turned : (front ++ tail).reverse = tail.reverse ++ d :: ds.reverse := by
      rw [ends]
      simp
    rw [trim, start, turned, trimStart_append_cons hd, ends]
    simp
  · have := List.reverse_prefix.mpr (List.dropWhile_suffix isBlank (l := tail.reverse))
    rwa [List.reverse_reverse] at this

theorem pieces_append_cons {separator : Char} {word : List Char} (h : separator ∉ word)
    (rest : List Char) :
    pieces separator (word ++ separator :: rest) = word :: pieces separator rest := by
  induction word with
  | nil => rw [List.nil_append, pieces, if_pos rfl]
  | cons c word ih =>
    rw [List.mem_cons, not_or] at h
    rw [List.cons_append, pieces, if_neg (Ne.symm h.1), ih h.2]

theorem pieces_of_not_mem {separator : Char} {word : List Char} (h : separator ∉ word) :
    pieces separator word = [word] := by
  induction word with
  | nil => rfl
  | cons c word ih =>
    rw [List.mem_cons, not_or] at h
    rw [pieces, if_neg (Ne.symm h.1), ih h.2]

/-- Words that follow one another, each behind a separator, come apart again. -/
theorem pieces_flatMap {α : Type} {separator : Char} {f : α → List Char} {as : List α}
    (h : ∀ a ∈ as, separator ∉ f a) {word : List Char} (hw : separator ∉ word) :
    pieces separator (word ++ as.flatMap fun a => separator :: f a) = word :: as.map f := by
  -- the word in front is what was read already
  induction as generalizing word with
  | nil =>
    rw [List.flatMap_nil, List.append_nil]
    exact pieces_of_not_mem hw
  | cons a as ih =>
    rw [List.flatMap_cons, List.cons_append, pieces_append_cons hw,
      ih (fun b hb => h b (List.mem_cons_of_mem a hb)) (h a List.mem_cons_self)]
    rfl

end Text

namespace Name

theorem slash_not_mem_uriChars (c : Component) : '/' ∉ c.uriChars := by
  intro h
  cases Component.isWritten_of_mem_uriChars h

/-- The parts of a written name that are not empty are its components. -/
theorem pieces_uriChars (n : Name) :
    (Text.pieces '/' n.uriChars).filter (! ·.isEmpty) = n.components.map Component.uriChars := by
  rw [uriChars]
  split
  · rename_i empty
    rw [List.isEmpty_iff.mp empty]
    rfl
  · have slashless : ∀ c ∈ n.components, '/' ∉ c.uriChars := fun c _ => slash_not_mem_uriChars c
    have parts := Text.pieces_flatMap slashless List.not_mem_nil
    rw [List.nil_append] at parts
    rw [parts, List.filter_cons_of_neg (by simp), List.filter_eq_self]
    intro part hpart
    obtain ⟨c, -, rfl⟩ := List.mem_map.mp hpart
    simp [c.uriChars_ne_nil]

theorem mapM_ofUri (cs : List Component) :
    (cs.map Component.uriChars).mapM Component.ofUri = .ok cs := by
  induction cs with
  | nil => rfl
  | cons c cs ih =>
    rw [List.map_cons, List.mapM_cons, Component.ofUri_uriChars, ok_bind, ih]
    rfl

/-! ### What may stand around a name -/

/-- What may stand in front of a name: nothing, the scheme, or the scheme and an authority. -/
inductive Leads : List Char → Prop where
  | nothing : Leads []
  | scheme : Leads ['n', 'd', 'n', ':']
  | authority {a : List Char} (h : '/' ∉ a) : Leads ('n' :: 'd' :: 'n' :: ':' :: '/' :: '/' :: a)

/-- What may stand behind a name: nothing, or what begins with a query or a fragment. -/
def Trails (behind : List Char) : Prop := ∀ c ∈ behind.head?, c = '?' ∨ c = '#'

theorem Trails.of_prefix {rest behind : List Char} (h : Trails behind) (part : rest <+: behind) :
    Trails rest := by
  cases rest with
  | nil => simp [Trails]
  | cons c rest =>
    obtain ⟨more, rfl⟩ := part
    exact h

theorem mem_uriChars {n : Name} {c : Char} (h : c ∈ n.uriChars) :
    c = '/' ∨ Percent.isWritten c = true := by
  rw [uriChars] at h
  split at h
  · exact .inl (List.mem_singleton.mp h)
  · obtain ⟨d, -, hd⟩ := List.mem_flatMap.mp h
    rcases List.mem_cons.mp hd with rfl | hd
    · exact .inl rfl
    · exact .inr (Component.isWritten_of_mem_uriChars hd)

theorem not_isBlank_of_mem_uriChars {n : Name} {c : Char} (h : c ∈ n.uriChars) :
    Text.isBlank c = false := by
  rcases mem_uriChars h with rfl | written
  · rfl
  · exact Percent.not_isBlank_of_isWritten written

/-- A written name begins with one slash and not with two, whatever stands behind it. -/
theorem uriChars_eq_cons (n : Name) {behind : List Char} (trails : Trails behind) :
    ∃ rest, n.uriChars = '/' :: rest ∧ (rest ++ behind).head? ≠ some '/' := by
  obtain ⟨components⟩ := n
  cases components with
  | nil =>
    refine ⟨[], rfl, fun slash => ?_⟩
    rcases trails '/' slash with h | h <;> cases h
  | cons c cs =>
    refine ⟨c.uriChars ++ cs.flatMap fun c => '/' :: c.uriChars, rfl, ?_⟩
    obtain ⟨d, ds, first⟩ := List.exists_cons_of_ne_nil c.uriChars_ne_nil
    rw [first]
    rintro ⟨⟩
    exact slash_not_mem_uriChars c (by rw [first]; exact List.mem_cons_self)

theorem withoutAuthority_of_single {cs : List Char} (h : cs.head? ≠ some '/') :
    withoutAuthority ('/' :: cs) = '/' :: cs := by
  have none : Text.afterStart? ['/', '/'] ('/' :: cs) = none := by
    cases cs with
    | nil => rfl
    | cons c cs =>
      have ne : ¬ '/' = c := fun same => h (by rw [same]; rfl)
      simp [Text.afterStart?, ne]
  rw [withoutAuthority, none]

/-- What stands in front of a name is taken away, and nothing of the name. -/
theorem withoutAuthority_withoutScheme {front : List Char} (leads : Leads front) {cs : List Char}
    (h : cs.head? ≠ some '/') :
    withoutAuthority (withoutScheme (front ++ '/' :: cs)) = '/' :: cs := by
  cases leads with
  | nothing => exact withoutAuthority_of_single h
  | scheme => exact withoutAuthority_of_single h
  | @authority a slashless =>
    show (a ++ '/' :: cs).dropWhile (· ≠ '/') = _
    rw [List.dropWhile_append_of_pos, List.dropWhile_cons_of_neg (by simp)]
    intro c hc
    have ne : c ≠ '/' := fun same => slashless (same ▸ hc)
    simp [ne]

theorem withoutQuery_append (n : Name) {behind : List Char} (trails : Trails behind) :
    withoutQuery (n.uriChars ++ behind) = n.uriChars := by
  have stop : withoutQuery behind = [] := by
    cases behind with
    | nil => rfl
    | cons c behind =>
      rcases trails c rfl with rfl | rfl <;> rfl
  rw [withoutQuery] at stop ⊢
  rw [List.takeWhile_append_of_pos, stop, List.append_nil]
  intro c hc
  rcases mem_uriChars hc with rfl | written
  · rfl
  · have query : c ≠ '?' := fun same => by subst same; cases written
    have fragment : c ≠ '#' := fun same => by subst same; cases written
    simp [query, fragment]

theorem path_append (n : Name) {front behind : List Char} (leads : Leads front)
    (trails : Trails behind) : path (front ++ n.uriChars ++ behind) = n.uriChars := by
  obtain ⟨cs, begins, -⟩ := n.uriChars_eq_cons trails
  have nonempty : n.uriChars ≠ [] := by
    rw [begins]
    exact List.cons_ne_nil _ _
  -- trimming takes nothing off the front, since neither `n` nor a slash is blank
  have first : ∃ c ds, front ++ n.uriChars = c :: ds ∧ Text.isBlank c = false := by
    cases leads with
    | nothing => exact ⟨'/', cs, begins, rfl⟩
    | scheme => exact ⟨_, _, rfl, rfl⟩
    | authority _ => exact ⟨_, _, rfl, rfl⟩
  obtain ⟨c, ds, starts, hc⟩ := first
  have last : front ++ n.uriChars =
      (front ++ n.uriChars.dropLast) ++ [n.uriChars.getLast nonempty] := by
    rw [List.append_assoc, List.dropLast_concat_getLast]
  -- nor off the end of the name, but what stands behind may lose its end
  obtain ⟨rest, trimmed, part⟩ := Text.trim_append starts last hc
    (not_isBlank_of_mem_uriChars (List.getLast_mem nonempty)) behind
  have trails := trails.of_prefix part
  obtain ⟨cs, begins, single⟩ := n.uriChars_eq_cons trails
  have named : withoutAuthority (withoutScheme (front ++ (n.uriChars ++ rest))) =
      n.uriChars ++ rest := by
    rw [begins]
    exact withoutAuthority_withoutScheme leads single
  rw [path, trimmed, List.append_assoc, named, withoutQuery_append n trails]

theorem ofUriChars_append (n : Name) {front behind : List Char} (leads : Leads front)
    (trails : Trails behind) : ofUriChars (front ++ n.uriChars ++ behind) = .ok n := by
  rw [ofUriChars, path_append n leads trails]
  simp only [pieces_uriChars, mapM_ofUri]
  rfl

/-- A name reads back with anything behind it that begins with a query or a fragment. -/
theorem ofUri_uri_append (n : Name) {behind : String} (trails : Trails behind.toList) :
    ofUri (n.uri ++ behind) = .ok n := by
  have := n.ofUriChars_append .nothing trails
  rw [List.nil_append] at this
  rw [ofUri, uri, String.toList_append, String.toList_ofList, this]

end Name

/-! ### The texts of packets -/

theorem trails_parameters (ps : List (String × String)) : Name.Trails (parameters ps).toList := by
  cases ps with
  | nil => simp [parameters, Name.Trails]
  | cons p ps =>
    intro c hc
    simp [parameters] at hc
    exact .inl hc.symm

theorem Name.ofUri_uri_parameters (n : Name) (ps : List (String × String)) :
    ofUri (n.uri ++ parameters ps) = .ok n := n.ofUri_uri_append (trails_parameters ps)

/-- The text of a packet of this type reads as the name that the packet carries. -/
def Form.ShowsName (α : Type) [Form α] : Prop :=
  ∀ x : α, ∃ text name, Form.text? x = some text ∧ Form.name? x = some name ∧
    Name.ofUri text = .ok name

/-- The URI of a name, by itself or behind the scheme or behind the scheme and an authority, and
with a query or a fragment behind it or without, reads as that name.  So the text of every packet
reads as the packet's name, and no two names have the same URI. -/
theorem Name.ofUri_around_uri :
    (∀ (n : Name) (authority query : String), '/' ∉ authority.toList →
      ∀ front ∈ ["", "ndn:", "ndn://" ++ authority], ∀ behind ∈ ["", "?" ++ query, "#" ++ query],
        ofUri (front ++ n.uri ++ behind) = .ok n) ∧
    (Form.ShowsName Announcement ∧ Form.ShowsName Hint ∧ Form.ShowsName LegacyHint ∧
      Form.ShowsName Vicinity ∧ Form.ShowsName VicinityData) ∧
    ∀ m n : Name, m.uri = n.uri → m = n := by
  refine ⟨?_, ?_, ?_⟩
  · intro n authority query slashless front hfront behind hbehind
    have leads : Leads front.toList := by
      simp only [List.mem_cons, List.not_mem_nil, or_false] at hfront
      rcases hfront with rfl | rfl | rfl
      · exact .nothing
      · exact .scheme
      · rw [String.toList_append]
        exact .authority slashless
    have trails : Trails behind.toList := by
      simp only [List.mem_cons, List.not_mem_nil, or_false] at hbehind
      rcases hbehind with rfl | rfl | rfl <;> simp [Trails]
    rw [ofUri, uri, String.toList_append, String.toList_append, String.toList_ofList]
    exact n.ofUriChars_append leads trails
  · exact ⟨fun a => ⟨_, _, rfl, rfl, a.name.ofUri_uri_parameters _⟩,
      fun h => ⟨_, _, rfl, rfl, h.name.ofUri_uri_parameters _⟩,
      fun h => ⟨_, _, rfl, rfl, h.name.ofUri_uri_parameters _⟩,
      fun v => ⟨_, _, rfl, rfl, v.name.ofUri_uri_parameters _⟩,
      fun v => ⟨_, _, rfl, rfl, v.name.ofUri_uri_parameters _⟩⟩
  · intro m n same
    -- one text reads as one name
    have trails : Trails "".toList := by simp [Trails]
    have read := m.ofUri_uri_append trails
    rw [same, n.ofUri_uri_append trails] at read
    exact (Except.ok.inj read).symm

/-- The empty component, one of two periods, and one of bytes that have a meaning in URIs. -/
theorem Name.ofUri_around_uri_periods :
    let n : Name := ⟨[⟨[]⟩, ⟨[46, 46]⟩, ⟨[47, 37, 255, 32, 63]⟩]⟩
    '/' ∉ "router:6363".toList ∧
      ofUri "ndn://router:6363/.../...../%2F%25%FF%20%3F?a=/b " = .ok n := by
  intro n
  have slashless : '/' ∉ "router:6363".toList := by decide
  have read := ofUri_around_uri.1 n "router:6363" "a=/b " slashless ("ndn://" ++ "router:6363")
    (by simp) ("?" ++ "a=/b ") (by simp)
  have written : "ndn://" ++ "router:6363" ++ n.uri ++ ("?" ++ "a=/b ") =
      "ndn://router:6363/.../...../%2F%25%FF%20%3F?a=/b " := by decide +kernel
  rw [written] at read
  exact ⟨slashless, read⟩

end NamedData
