/-
What every operation of a session keeps.

Whatever is done to a held record comes down to a few things: a change is applied, the fields are
written, with or without keeping the result, the record inside is encoded by itself, and a block
takes the place of everything.  The rest only looks, or moves records about.

* `Cached.Kept` — a property of cached records that survives these;
* `Session.forall_records_step` — one operation keeps such a property of the record and its copy;
* `Session.forall_records_run` — so does any sequence of operations.
-/
import NamedData.Record.Session
import NamedData.Proofs.Element

namespace NamedData

section

variable {α ε : Type}

/-- What the operation brings along is among these changes and these blocks. -/
def Operation.Brings (changes : ε → Prop) (blocks : Block → Prop) : Operation ε → Prop
  | .edit change => changes change
  | .decode b => blocks b
  | _ => True

/-- The record and the copy of it, if there is one. -/
def Session.records (s : Session α) : List (Held α) := s.current :: s.saved?.toList

variable [Record α] [Editable α ε]

/-- The property survives whatever is done to a cached record with these changes and blocks. -/
structure Cached.Kept (P : Cached α → Prop) (changes : ε → Prop) (blocks : Block → Prop) :
    Prop where
  edit {change : ε} {c : Cached α} : changes change → P c → P (Editable.apply change c)
  ofBlock {b : Block} {c : Cached α} : blocks b → Cached.ofBlock b = .ok c → P c
  encode {c : Cached α} : P c → P c.encode.2
  settled {c : Cached α} : P c → P c.settled
  nested {c : Cached α} {b : Block} {x : α} :
    P c → Record.encodeNested? c.fields = some (b, x) → P { c with fields := x }

namespace Session

omit [Record α] [Editable α ε] in
theorem forall_records_start {P : Cached α → Prop} {c : Held α} (h : P c.toCached) :
    ∀ r ∈ (start c).records, P r.toCached := by
  intro r hr
  rw [List.mem_singleton.mp hr]
  exact h

variable [Form α] {P : Cached α → Prop} {changes : ε → Prop} {blocks : Block → Prop}

/-- One operation keeps the property of the record and of its copy. -/
theorem forall_records_step (kept : Cached.Kept P changes blocks) {s : Session α}
    {op : Operation ε} (brings : op.Brings changes blocks) (h : ∀ r ∈ s.records, P r.toCached) :
    ∀ r ∈ (s.step op).2.records, P r.toCached := by
  have current : P s.current.toCached := h _ List.mem_cons_self
  have saved : ∀ r ∈ s.saved?.toList, P r.toCached := fun r hr => h r (List.mem_cons_of_mem _ hr)
  have copy {r : Held α} (hr : s.saved? = some r) : P r.toCached :=
    saved r (Option.mem_toList.mpr hr)
  -- it is enough to look at the record and at the copy of what the operation leaves
  have both {r : Held α} {o : Option (Held α)} (hr : P r.toCached)
      (ho : ∀ c ∈ o.toList, P c.toCached) : ∀ c ∈ records ⟨r, o⟩, P c.toCached := by
    intro c hc
    rcases List.mem_cons.mp hc with rfl | hc
    · exact hr
    · exact ho c hc
  have copied {r : Held α} (hr : P r.toCached) : ∀ c ∈ (some r).toList, P c.toCached := by
    intro c hc
    rwa [List.mem_singleton.mp hc]
  cases op with
  | edit change => exact both (kept.edit brings current) saved
  | editHeader change => exact both current saved
  | decode b =>
    rw [step]
    split
    · rename_i held hheld
      obtain ⟨c, hc, rfl⟩ := map_eq_ok.mp hheld
      exact both (kept.ofBlock brings hc) saved
    · exact h
  | encode => exact both (kept.encode current) saved
  | encodeNested =>
    rw [step]
    split
    · rename_i b x hx
      exact both (kept.nested current hx) saved
    · exact h
  -- these write the fields but do not keep the result
  | toBytes => exact both (kept.settled current) saved
  | estimate => exact both (kept.settled current) saved
  | display => exact h
  | json => exact h
  | matchesName name => exact h
  | compareWire bs =>
    rw [step]
    split
    · exact both (kept.encode current) saved
    · exact h
  | save => exact both current (copied current)
  | compareSaved =>
    rw [step]
    split
    · rename_i r hr
      exact both (kept.encode current) (copied (kept.encode (copy hr)))
    · exact h
  | encodeSaved =>
    rw [step]
    split
    · rename_i r hr
      exact both current (copied (kept.encode (copy hr)))
    · exact h
  | swap =>
    rw [step]
    split
    · rename_i r hr
      exact both (copy hr) (copied current)
    · exact h

/-- Any sequence of operations does. -/
theorem forall_records_run (kept : Cached.Kept P changes blocks) {s : Session α}
    {ops : List (Operation ε)} (brings : ∀ op ∈ ops, op.Brings changes blocks)
    (h : ∀ r ∈ s.records, P r.toCached) : ∀ r ∈ (s.run ops).2.records, P r.toCached := by
  -- the property is carried along the sequence, from the first operation on
  induction ops generalizing s with
  | nil => exact h
  | cons op ops ih =>
    have first := forall_records_step kept (brings op List.mem_cons_self) h
    exact ih (fun op' hop' => brings op' (List.mem_cons_of_mem op hop')) first

end Session

end

end NamedData
