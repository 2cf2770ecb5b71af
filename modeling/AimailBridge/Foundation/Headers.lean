import AimailBridge.Foundation.Routing

/-!
# Header maps

What a header map holds under a name, and what inserting headers one after the other does to it.
-/

namespace Foundation

variable {name : Text} {headers : List (Text × Bytes)}

/-- The values that a list of headers holds under a name. -/
def valuesOf (name : Text) (headers : List (Text × Bytes)) : List Bytes :=
  (headers.filter fun header => header.1 = name).map Prod.snd

theorem valuesOf_removeHeader_self (name : Text) (headers : List (Text × Bytes)) :
    valuesOf name (removeHeader name headers) = [] := by
  have none_left : (removeHeader name headers).filter (fun header => header.1 = name) = [] := by
    rw [List.filter_eq_nil_iff]
    intro header member
    simpa using (List.mem_filter.mp member).2
  rw [valuesOf, none_left, List.map_nil]

theorem valuesOf_removeHeader_of_ne {other : Text} (different : name ≠ other)
    (headers : List (Text × Bytes)) :
    valuesOf name (removeHeader other headers) = valuesOf name headers := by
  rw [valuesOf, removeHeader, List.filter_filter, valuesOf]
  congr 2
  funext header
  by_cases same : header.1 = name
  · simp [same, different]
  · simp [same]

/-- An inserted header replaces all values of its name. -/
theorem valuesOf_insertHeader_self (name : Text) (value : Bytes) (headers : List (Text × Bytes)) :
    valuesOf name (insertHeader name value headers) = [value] := by
  have kept := valuesOf_removeHeader_self name headers
  rw [valuesOf] at kept
  rw [insertHeader, valuesOf, List.filter_append, List.map_append, kept]
  simp

theorem valuesOf_insertHeader_of_ne {other : Text} (different : name ≠ other) (value : Bytes)
    (headers : List (Text × Bytes)) :
    valuesOf name (insertHeader other value headers) = valuesOf name headers := by
  have kept := valuesOf_removeHeader_of_ne different headers
  rw [valuesOf, valuesOf] at kept
  rw [insertHeader, valuesOf, List.filter_append, List.map_append, kept, valuesOf]
  simp [different.symm]

/-- Insert headers one after the other. -/
def insertHeaders (inserted : List (Text × Bytes)) (headers : List (Text × Bytes)) :
    List (Text × Bytes) :=
  inserted.foldl (fun headers header => insertHeader header.1 header.2 headers) headers

/-- The headers under other names than these. -/
def headersBeside (names : List Text) (headers : List (Text × Bytes)) : List (Text × Bytes) :=
  headers.filter fun header => ! names.contains header.1

theorem valuesOf_insertHeaders_of_not_mem {inserted : List (Text × Bytes)}
    (absent : name ∉ inserted.map Prod.fst) (headers : List (Text × Bytes)) :
    valuesOf name (insertHeaders inserted headers) = valuesOf name headers := by
  induction inserted generalizing headers with
  | nil => rfl
  | cons header inserted induction =>
      obtain ⟨different, later⟩ : name ≠ header.1 ∧ name ∉ inserted.map Prod.fst := by
        simpa using absent
      rw [insertHeaders, List.foldl_cons]
      exact (induction later _).trans (valuesOf_insertHeader_of_ne different _ _)

/-- Headers with names of their own are there exactly once after they have been inserted. -/
theorem valuesOf_insertHeaders {inserted : List (Text × Bytes)}
    (distinct : (inserted.map Prod.fst).Nodup) {value : Bytes} (member : (name, value) ∈ inserted)
    (headers : List (Text × Bytes)) :
    valuesOf name (insertHeaders inserted headers) = [value] := by
  induction inserted generalizing headers with
  | nil => exact absurd member List.not_mem_nil
  | cons header inserted induction =>
      obtain ⟨fresh, rest⟩ := List.nodup_cons.mp distinct
      rw [insertHeaders, List.foldl_cons]
      rcases List.mem_cons.mp member with rfl | later
      · exact (valuesOf_insertHeaders_of_not_mem fresh _).trans
          (valuesOf_insertHeader_self name value headers)
      · exact induction rest later _

theorem headersBeside_removeHeader {names : List Text} (listed : name ∈ names)
    (headers : List (Text × Bytes)) :
    headersBeside names (removeHeader name headers) = headersBeside names headers := by
  rw [headersBeside, removeHeader, List.filter_filter, headersBeside]
  congr 1
  funext header
  by_cases same : header.1 = name
  · simp [same, listed]
  · simp [same]

theorem headersBeside_insertHeader {names : List Text} (listed : name ∈ names) (value : Bytes)
    (headers : List (Text × Bytes)) :
    headersBeside names (insertHeader name value headers) = headersBeside names headers := by
  have dropped : headersBeside names [(name, value)] = [] := by
    simp [headersBeside, listed]
  have kept := headersBeside_removeHeader listed headers
  rw [headersBeside] at dropped kept
  rw [insertHeader, headersBeside, List.filter_append, dropped, kept, List.append_nil,
    headersBeside]

/-- Inserting headers leaves all headers under other names as they are, and in their order. -/
theorem headersBeside_insertHeaders {names : List Text} {inserted : List (Text × Bytes)}
    (listed : ∀ header ∈ inserted, header.1 ∈ names) (headers : List (Text × Bytes)) :
    headersBeside names (insertHeaders inserted headers) = headersBeside names headers := by
  induction inserted generalizing headers with
  | nil => rfl
  | cons header inserted induction =>
      rw [insertHeaders, List.foldl_cons]
      have later := fun other member => listed other (List.mem_cons_of_mem _ member)
      refine (induction later _).trans ?_
      exact headersBeside_insertHeader (listed header List.mem_cons_self) _ _

/-- Headers with names of their own end up after all headers under other names. -/
theorem insertHeaders_eq {inserted : List (Text × Bytes)}
    (distinct : (inserted.map Prod.fst).Nodup) (headers : List (Text × Bytes)) :
    insertHeaders inserted headers =
      headersBeside (inserted.map Prod.fst) headers ++ inserted := by
  induction inserted generalizing headers with
  | nil => simp [insertHeaders, headersBeside]
  | cons header inserted induction =>
      obtain ⟨fresh, rest⟩ := List.nodup_cons.mp distinct
      have last : headersBeside (inserted.map Prod.fst) [header] = [header] := by
        simpa [headersBeside] using fresh
      have front : headersBeside (inserted.map Prod.fst) (removeHeader header.1 headers) =
          headersBeside ((header :: inserted).map Prod.fst) headers := by
        rw [headersBeside, removeHeader, List.filter_filter, headersBeside]
        congr 1
        funext other
        by_cases same : other.1 = header.1 <;> simp [same]
      calc
        insertHeaders (header :: inserted) headers =
            insertHeaders inserted (removeHeader header.1 headers ++ [header]) := rfl
        _ = headersBeside (inserted.map Prod.fst) (removeHeader header.1 headers ++ [header]) ++
              inserted := induction rest _
        _ = headersBeside ((header :: inserted).map Prod.fst) headers ++ header :: inserted := by
            rw [headersBeside, List.filter_append]
            rw [headersBeside] at last front
            rw [front, last, List.append_assoc]
            rfl

/-- Inserting the same headers again changes nothing. -/
theorem insertHeaders_insertHeaders {inserted : List (Text × Bytes)}
    (distinct : (inserted.map Prod.fst).Nodup) (headers : List (Text × Bytes)) :
    insertHeaders inserted (insertHeaders inserted headers) = insertHeaders inserted headers := by
  rw [insertHeaders_eq distinct (insertHeaders inserted headers),
    headersBeside_insertHeaders (fun header member => List.mem_map_of_mem member),
    insertHeaders_eq distinct]

end Foundation
