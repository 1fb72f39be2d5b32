import Tabular.Proofs.SaveFile.Made
import Tabular.Proofs.SaveFile.RoundTrip
import Tabular.Proofs.SaveFile.Settled

namespace Tabular.SaveFile
open Text

variable {text : String} {ts : List Table} {t : Table}

theorem storable_of_decode (h : decode text = .ok ts) (ht : t ∈ ts) (hu : t.Unbroken) :
    t.Storable :=
  have hbuilt := (built_of_decode h t ht).sound_fit
  have hsize := (size_of_decode h).2 t ht
  ⟨hbuilt.1, hbuilt.2, hu, hsize.1, hsize.2⟩

/-- No line that was read holds a feed, so a text can only be broken by a carriage return. -/
theorem carriageReturn_of_decode (h : decode text = .ok ts) (ht : t ∈ ts) (hu : ¬ t.Unbroken) :
    ∃ row ∈ t.rows, ∃ content, Value.text content ∈ row ∧ '\r' ∈ content.toList := by
  obtain ⟨row, hr, content, hc, hbreak⟩ := Table.not_unbroken.mp hu
  have hfeed := (recorded_of_decode h t ht).oneLine row hr _ hc content rfl
  exact ⟨row, hr, content, hc, hbreak.resolve_left hfeed⟩

/-- A table that was read comes back from its lines as it is, down to what its nulls hide. -/
theorem takes_recorded (ht : t.Recorded) (hs : t.Storable) :
    Takes table ((tableLines t).map String.toList) t := by
  obtain ⟨declared, hd, hall⟩ := ht.made
  exact takes_table hs.lined hd hall

theorem takes_of_decode (h : decode text = .ok ts) (hu : ∀ t ∈ ts, t.Unbroken) :
    Takes tables ((fileLines ts).map String.toList) ts := by
  obtain ⟨again, htakes, hsame⟩ := takes_fileLines (p := id) (q := id) (size_of_decode h).1
    fun t ht => ⟨t, takes_recorded (recorded_of_decode h t ht) (storable_of_decode h ht (hu t ht)),
      rfl⟩
  rw [List.map_id, List.map_id] at hsame
  rwa [hsame] at htakes

/-- However a file is laid out, what it holds is written in one form, which is read as the same
tables and written as itself. Only a carriage return within a text keeps it from being written. -/
theorem encode_of_decode (h : decode text = .ok ts) :
    (∃ t ∈ ts, ∃ row ∈ t.rows, ∃ content, Value.text content ∈ row ∧ '\r' ∈ content.toList) ∧
        (∃ fault, encode ts = .error fault) ∨
      ∃ written, encode ts = .ok written ∧ decode written = .ok ts ∧
        (decode written >>= encode) = .ok written := by
  by_cases hu : ∀ t ∈ ts, t.Unbroken
  · right
    have hlines := lines_flatMap (not_feed_fileLines fun t ht => storable_of_decode h ht (hu t ht))
    rw [← toList_join_lines] at hlines
    have hwritten := encode_eq_ok.mpr ⟨hu, rfl⟩
    have hread := decode_of_takes (takes_of_decode h hu) (hlines.trans (List.append_nil _).symm)
    exact ⟨_, hwritten, hread, bind_eq_ok.mpr ⟨ts, hread, hwritten⟩⟩
  · left
    refine ⟨?_, encode_eq_error.mpr hu⟩
    simp only [not_forall, exists_prop] at hu
    obtain ⟨t, ht, hu⟩ := hu
    exact ⟨t, ht, carriageReturn_of_decode h ht hu⟩

/-- White space, letter case, signs, leading zeros and bare words as no file that is written has
them, and a line behind the last table. -/
def laidOut : String :=
  "+1 \r\n  seat row\t\r\n02\r\nVARCHAR(7)  label \r\n\tBool free\r\n+2 1 +01\r\n3\r\n" ++
    "A1 1\r\n 'B ''2' FALSE \r\n12. NULL\r\nno table"

def plain : String :=
  "1\nseat row\n2\nvarchar label\nbool free\n1 1\n3\n'A1' true\n'B ''2' false\n'12.' NULL\n"

theorem encode_of_decode_laidOut :
    ∃ ts, decode laidOut = .ok ts ∧ encode ts = .ok plain ∧ decode plain = .ok ts := by
  have hplain : (decode laidOut >>= encode) = .ok plain := by
    decide +kernel
  obtain ⟨ts, hread, hwritten⟩ := bind_eq_ok.mp hplain
  refine ⟨ts, hread, hwritten, ?_⟩
  obtain ⟨-, fault, hfault⟩ | ⟨written, hok, hagain, -⟩ := encode_of_decode hread
  · rw [hwritten] at hfault
    cases hfault
  · obtain rfl : written = plain := Except.ok.inj (hok.symm.trans hwritten)
    exact hagain

end Tabular.SaveFile
