/-
  What it means that settings were loaded.

  Loading is a chain: the file is there, its bytes are a text, the text is a document, the document
  fits the settings, and the settings keep the rules.

  1. **Texts as bytes.**  A text that was saved as bytes is the text that is read from them
     (`fromUTF8?_ofString`).  The library's list of the bytes is made by a loop, so it is first
     shown to be what is in the array.

  2. **Loading.**  What was loaded has gone through the whole chain (`load_ok`), and a text that was
     saved to a file is loaded as itself (`load_ofString`).

  Later modules use these two and never look at bytes.
-/
import TxRelay.Config.Load

namespace TxRelay

/-! ## Texts as bytes -/

namespace Bytes

theorem get!_eq (bs : ByteArray) {i : Nat} (h : i < bs.data.toList.length) :
    bs.get! i = bs.data.toList[i] := by
  unfold ByteArray.get!
  exact getElem!_pos bs.data i h

theorem toList_loop (bs : ByteArray) (i : Nat) (read : List UInt8) :
    ByteArray.toList.loop bs i read = read.reverse ++ bs.data.toList.drop i := by
  fun_induction ByteArray.toList.loop bs i read with
  | case1 i read hlt ih =>
    have hlt' : i < bs.data.toList.length := hlt
    rw [ih, List.drop_eq_getElem_cons hlt', get!_eq bs hlt', List.reverse_cons, List.append_assoc]
    rfl
  | case2 i read hge =>
    have hend : bs.data.toList.drop i = [] := List.drop_eq_nil_of_le (Nat.le_of_not_lt hge)
    rw [hend, List.append_nil]

theorem toList_eq (bs : ByteArray) : bs.toList = bs.data.toList := by
  rw [ByteArray.toList, toList_loop]
  rfl

/-- The bytes of a text spell it. -/
theorem fromUTF8?_ofString (s : String) :
    String.fromUTF8? ⟨(ofString s).toArray⟩ = some s := by
  have hsame : (⟨(ofString s).toArray⟩ : ByteArray) = s.toByteArray := by
    rw [ofString, toList_eq]
    rfl
  rw [hsame, String.fromUTF8?, dif_pos s.isValidUTF8]
  rfl

end Bytes

/-! ## Loading -/

namespace Config

/-- Settings that pass the check are the settings that were checked. -/
theorem checked_ok {c d : Config} (h : checked c = .ok d) : c = d ∧ d.check = [] := by
  unfold checked at h
  split at h
  · rename_i hkept
    obtain rfl := Except.ok.inj h
    exact ⟨rfl, hkept⟩
  · cases h

/-- A text that gives settings is a document, and the settings keep the rules. -/
theorem ofText_ok {s : String} {c : Config} (h : ofText s = .ok c) :
    (∃ es, Toml.parse s = some es ∧ ofToml es = .ok c) ∧ c.check = [] := by
  unfold ofText at h
  split at h
  · cases h
  · rename_i es hparse
    split at h
    · cases h
    · rename_i d hread
      obtain ⟨rfl, hkept⟩ := checked_ok h
      exact ⟨⟨es, hparse, hread⟩, hkept⟩

/-- Settings that were loaded are those of the document in the file, and they keep the rules. -/
theorem load_ok {file : Option Bytes} {c : Config} (h : load file = .ok c) :
    (∃ s es, Toml.parse s = some es ∧ ofToml es = .ok c) ∧ c.check = [] := by
  unfold load at h
  split at h
  · cases h
  · split at h
    · cases h
    · rename_i s hs
      obtain ⟨⟨es, hparse, hread⟩, hkept⟩ := ofText_ok h
      exact ⟨⟨s, es, hparse, hread⟩, hkept⟩

/-- A file that holds a text is loaded as that text. -/
theorem load_ofString (s : String) : load (some (Bytes.ofString s)) = ofText s := by
  rw [load, Bytes.fromUTF8?_ofString]

end Config

end TxRelay
