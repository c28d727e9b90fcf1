import Testbench.Driver.Client
import Testbench.Proofs.Device.Live
import Testbench.Proofs.Image
import Testbench.Proofs.Remote.Wire
import Testbench.Proofs.World

/-!
# Asking again

A client does not know how much room an answer takes.  It tries with a little, is told how much it
takes, and asks again.  What the device tells is a number of addresses in one request and a number of
bytes in the other; either is just what the second buffer needs, so that there is no third one as
long as nothing changes in between.

The client may make its requests in any way, so that it can be watched: `noted` makes them as another
way does and takes a note of each.
-/

namespace Testbench

open World

variable {ρ ε σ : Type}

/-! ### Answers of the device -/

namespace Driver

variable {w : World ρ ε} {address : UInt64} {c : ConnectionId} {x : Connection ρ}

lemma writeImage_of_le {k : Keyed ρ} {output : List UInt8} (h : k.size ≤ output.length) :
    writeImage k output = .ok ⟨.success, k.size, Image.image k ++ output.drop k.size⟩ := by
  rw [writeImage, Image.writeInto_eq k h]

lemma writeImage_of_lt {k : Keyed ρ} {output : List UInt8} (h : output.length < k.size)
    (hroom : 4 ≤ output.length) :
    writeImage k output = .ok (.writing .overflow (le32 (UInt32.ofNat k.size)) output) := by
  rw [writeImage, Image.writeInto, if_pos h]
  exact if_neg (Nat.not_lt.mpr hroom)

lemma word64_query (address : UInt64) : word64 0 ((le64 address).take 8).toArray = some address :=
  (Lies.self (le64 address)).word64_eq

/-- A request for a module is answered from the connection, which stays as it was. -/
lemma control_query_eq (hfound : (w.device.lookup address).1 = .ok c)
    (hx : w.device.get? c = some x) (exec : Routines ρ ε) (output : List UInt8) :
    control exec ControlCode.query.code (le64 address) output w
      = (.ok (writeImage x.routines output), w) := by
  have hlookup : lookup address w = (.ok _, _) := onDevice_eq w (·.lookup address)
  rcases hd : w.device.lookup address with ⟨why | c', held⟩
  · rw [hd] at hfound
    cases hfound
  rw [hd] at hlookup hfound
  obtain rfl := Except.ok.inj hfound
  obtain ⟨hlive, rfl⟩ := Device.lookup_ok_eq hd
  have hget : (w.device.modify c' .retain).get? c' = some x.retain := Device.get?_modify_self _ hx
  have hrelease : release c' { w with device := w.device.modify c' .retain } = (.ok (), w) := by
    rw [release, changeDevice_eq, Device.release_retain hlive]
  rw [control, ControlCode.ofCode?_code]
  simp only []
  rw [query, word64_query]
  refine (Flow.bind_ok hlookup).trans ?_
  simp only [seeDevice]
  rw [Flow.bind_ok (Flow.see_apply _ _)]
  simp only [hget]
  exact Flow.bind_ok hrelease

/-- A request for a module that is not there fails and does nothing. -/
lemma control_query_error {why : TableError} (hmissing : (w.device.lookup address).1 = .error why)
    (exec : Routines ρ ε) (output : List UInt8) :
    control exec ControlCode.query.code (le64 address) output w
      = (.ok (.error (.lookup why)), w) := by
  have hlookup : lookup address w = (.ok _, _) := onDevice_eq w (·.lookup address)
  rcases hd : w.device.lookup address with ⟨why' | c, d⟩
  · rw [hd] at hlookup hmissing
    obtain rfl := Except.error.inj hmissing
    obtain rfl := Device.lookup_error_eq hd
    rw [control, ControlCode.ofCode?_code]
    simp only []
    rw [query, word64_query]
    exact Flow.bind_ok hlookup
  · rw [hd] at hmissing
    cases hmissing

/-- How a request for the addresses is completed with a buffer. -/
def listed (d : Device ρ) (output : List UInt8) : Completion :=
  let listing := d.list ((output.length - 8) / 8)
  .writing (if listing.isComplete then .success else .overflow) (listBytes listing) output

/-- A request for the addresses is answered if there is room for one. -/
lemma control_list_eq (w : World ρ ε) (exec : Routines ρ ε) (input : List UInt8)
    {output : List UInt8} (h : 16 ≤ output.length) :
    control exec ControlCode.list.code input output w = (.ok (.ok (listed w.device output)), w) := by
  have hlisting : onDevice (fun d => (d.list ((output.length - 8) / 8), d)) w
      = (.ok (w.device.list ((output.length - 8) / 8)), w) := onDevice_eq w _
  rw [control, ControlCode.ofCode?_code]
  simp only []
  rw [list, if_neg (Nat.not_lt.mpr h)]
  exact Flow.bind_ok hlisting

lemma control_list_short (w : World ρ ε) (exec : Routines ρ ε) (input : List UInt8)
    {output : List UInt8} (h : output.length < 16) :
    control exec ControlCode.list.code input output w
      = (.ok (.error (.invalidParameter .outputSize)), w) := by
  rw [control, ControlCode.ofCode?_code]
  simp only []
  rw [list, if_pos h]
  rfl

/-- As many addresses are written as there is room for behind the header. -/
lemma written_listed (d : Device ρ) (output : List UInt8) :
    (listed d output).written = 8 + 8 * min ((output.length - 8) / 8) d.addresses.length := by
  have hwritten := Device.length_list d ((output.length - 8) / 8)
  rw [listed, Completion.writing]
  simp only [listBytes, List.length_append, length_le32, length_flatMap_le64, hwritten]
  rfl

/-- A request is a success if there is room for all addresses. -/
lemma status_listed (d : Device ρ) (output : List UInt8) :
    (listed d output).status = .success ↔ d.addresses.length ≤ (output.length - 8) / 8 := by
  have hwritten := Device.length_list d ((output.length - 8) / 8)
  have hcomplete : (d.list ((output.length - 8) / 8)).isComplete = true ↔
      d.addresses.length ≤ (output.length - 8) / 8 := by
    rw [Listing.isComplete, beq_iff_eq, hwritten]
    change min ((output.length - 8) / 8) d.addresses.length = d.addresses.length ↔ _
    omega
  rw [← hcomplete, listed, Completion.writing]
  cases (d.list ((output.length - 8) / 8)).isComplete <;> simp

/-- The header of an answer and the addresses behind it. -/
lemma lies_listed (d : Device ρ) (output : List UInt8) :
    Lies (le32 (UInt32.ofNat d.addresses.length)) 0 (listed d output).output ∧
      Lies ((d.addresses.take ((output.length - 8) / 8)).flatMap le64) 8
        (listed d output).output := by
  have h : Lies (listBytes (d.list ((output.length - 8) / 8))) 0 (listed d output).output :=
    .prefix_append _ _
  exact ⟨h.left.left, h.right⟩

lemma slots_blankBuffer (slots : Nat) : ((blankBuffer (8 + slots * 8)).length - 8) / 8 = slots := by
  rw [blankBuffer, List.length_replicate]
  omega

lemma output_listed (d : Device ρ) (output : List UInt8) :
    (listed d output).output = le32 (UInt32.ofNat d.addresses.length) ++ le32 0
      ++ (d.addresses.take ((output.length - 8) / 8)).flatMap le64
      ++ output.drop (listed d output).written := rfl

end Driver

/-! ### Loops -/

namespace Client

/-- A request that was made. -/
structure Asked where
  code : UInt32
  input : List UInt8
  /-- The length of the buffer. -/
  room : Nat
deriving DecidableEq, Repr

/-- Makes requests as `ask` does, and takes a note of each. -/
def noted (ask : Port σ) : Port (σ × List Asked) := fun code input output s =>
  ((ask code input output s.1).1, (ask code input output s.1).2,
    s.2 ++ [⟨code, input, output.length⟩])

variable {ask : Port σ} {s s₁ s₂ : σ}

lemma noted_eq {code : UInt32} {input output : List UInt8}
    {r : Except Stop (Except ControlError Completion)} (h : ask code input output s = (r, s₁))
    (asked : List Asked) :
    noted ask code input output (s, asked)
      = (r, s₁, asked ++ [⟨code, input, output.length⟩]) := by
  rw [noted, h]

/-! ### Addresses -/

lemma addressesIn_eq {l : List UInt8} {start : Nat} {as : List UInt64}
    (h : Lies (as.flatMap le64) start l) : addressesIn l.toArray start as.length = as := by
  induction as generalizing start with
  | nil => rfl
  | cons a as ih =>
    rw [List.flatMap_cons] at h
    have hrest := ih h.right
    rw [length_le64] at hrest
    rw [List.length_cons, addressesIn, h.left.word64_eq]
    simp only [hrest]

section

variable {d : Device ρ} {attempts slots : Nat}
  (hask : ask ControlCode.list.code [] (blankBuffer (8 + slots * 8)) s
    = (.ok (.ok (Driver.listed d (blankBuffer (8 + slots * 8)))), s₁))
include hask

/-- With enough slots all addresses are read. -/
lemma listWith_of_le (hcount : d.addresses.length < UInt32.size)
    (hslots : d.addresses.length ≤ slots) :
    listWith ask (attempts + 1) slots s = (.ok (.ok d.addresses), s₁) := by
  obtain ⟨hword, hbody⟩ := Driver.lies_listed d (blankBuffer (8 + slots * 8))
  have hlength := Driver.slots_blankBuffer slots
  have hstatus := (Driver.status_listed d (blankBuffer (8 + slots * 8))).mpr (by omega)
  rw [hlength, List.take_of_length_le hslots] at hbody
  have hmin : min (UInt32.ofNat d.addresses.length).toNat slots = d.addresses.length := by
    rw [toNat_ofNat32 hcount]
    omega
  rw [listWith, Flow.bind_ok hask]
  simp only [hword.word32_eq, hstatus, hmin, addressesIn_eq hbody]
  rfl

/-- With too few slots the client asks again with as many as the header counts. -/
lemma listWith_of_lt (hslots : slots < d.addresses.length) :
    listWith ask (attempts + 1) slots s
      = listWith ask attempts (UInt32.ofNat d.addresses.length).toNat s₁ := by
  obtain ⟨hword, -⟩ := Driver.lies_listed d (blankBuffer (8 + slots * 8))
  have hlength := Driver.slots_blankBuffer slots
  have hstatus : (Driver.listed d (blankBuffer (8 + slots * 8))).status = .overflow := by
    cases hs : (Driver.listed d (blankBuffer (8 + slots * 8))).status with
    | overflow => rfl
    | success =>
      have := (Driver.status_listed d (blankBuffer (8 + slots * 8))).mp hs
      omega
  rw [listWith, Flow.bind_ok hask]
  simp only [hword.word32_eq, hstatus]

end

/-- A client that lists the drivers learns of all of them, at the latest with the second buffer. -/
lemma listOver_eq {d : Device ρ} (hcount : d.addresses.length < UInt32.size)
    (hfirst : ask ControlCode.list.code [] (blankBuffer (8 + 4 * 8)) s
      = (.ok (.ok (Driver.listed d (blankBuffer (8 + 4 * 8)))), s₁))
    (hsecond : 4 < d.addresses.length →
      ask ControlCode.list.code [] (blankBuffer (8 + d.addresses.length * 8)) s₁
        = (.ok (.ok (Driver.listed d (blankBuffer (8 + d.addresses.length * 8)))), s₂)) :
    listOver ask s = (.ok (.ok d.addresses), if d.addresses.length ≤ 4 then s₁ else s₂) := by
  rw [listOver, maxAttempts]
  by_cases h : d.addresses.length ≤ 4
  · rw [if_pos h, listWith_of_le hfirst hcount h]
  · rw [if_neg h, listWith_of_lt hfirst (by omega), toNat_ofNat32 hcount,
      listWith_of_le (hsecond (by omega)) hcount (Nat.le_refl _)]

lemma room_blankBuffer {slots : Nat} : 16 ≤ (blankBuffer (8 + slots * 8)).length ↔ 0 < slots := by
  rw [blankBuffer, List.length_replicate]
  omega

/-- Even if there are more drivers than a header can count, no list that a client gets is short of
any. -/
lemma addresses_of_listWith {w w' : World ρ ε} {exec : Routines ρ ε} {attempts slots : Nat}
    {as : List UInt64} (hslots : slots < UInt32.size)
    (h : listWith (Driver.control exec) attempts slots w = (.ok (.ok as), w')) :
    as = w.device.addresses := by
  induction attempts generalizing slots with
  | zero => cases h
  | succ attempts ih =>
    by_cases hroom : 0 < slots
    · have hask := Driver.control_list_eq w exec [] (room_blankBuffer.mpr hroom)
      by_cases hle : w.device.addresses.length ≤ slots
      · rw [listWith_of_le hask (by omega) hle] at h
        exact (Except.ok.inj (Except.ok.inj (congrArg Prod.fst h))).symm
      · rw [listWith_of_lt hask (by omega)] at h
        exact ih (UInt32.toNat_lt _) h
    · have hask := Driver.control_list_short w exec []
        (Nat.not_le.mp fun h' => hroom (room_blankBuffer.mp h'))
      rw [listWith, Flow.bind_ok hask] at h
      cases h

/-! ### Catalogs -/

/-- What a client finds in an image. -/
def infoOf (k : Keyed ρ) : Image.ModuleInfo := ⟨Image.groupInfos 0 k.groups.toList⟩

section

variable {address : UInt64} {m : Module ρ} {k : Keyed ρ} {attempts size : Nat}
  (hk : Keyed.Numbers m k)
  (hask : ask ControlCode.query.code (le64 address) (blankBuffer size) s
    = (.ok (Driver.writeImage k (blankBuffer size)), s₁))
include hk hask

/-- In a buffer that is large enough the whole image is read. -/
lemma queryWith_of_le (hsize : k.size ≤ size) :
    queryWith ask address (attempts + 1) size s = (.ok (.ok (infoOf k)), s₁) := by
  have hlength : (blankBuffer size).length = size := List.length_replicate
  rw [Driver.writeImage_of_le (by rw [hlength]; exact hsize)] at hask
  have hdecode := Image.decode_image hk []
  rw [List.append_nil] at hdecode
  rw [queryWith, Flow.bind_ok hask]
  simp only [List.take_left' (Image.length_image k), hdecode]
  rfl

/-- With too small a buffer the client asks with one that is as large as the image. -/
lemma queryWith_of_lt (hroom : 4 ≤ size) (hsize : size < k.size) :
    queryWith ask address (attempts + 1) size s = queryWith ask address attempts k.size s₁ := by
  have hlength : (blankBuffer size).length = size := List.length_replicate
  rw [Driver.writeImage_of_lt (by rwa [hlength]) (by rwa [hlength])] at hask
  have hword : word32 0 ((le32 (UInt32.ofNat k.size) ++ (blankBuffer size).drop 4).take 4).toArray
      = some (UInt32.ofNat k.size) := by
    rw [List.take_left' (length_le32 _)]
    exact (Lies.self _).word32_eq
  have hle := hk.size_le
  have hrequired : (UInt32.ofNat k.size).toNat = k.size := toNat_ofNat32 (by omega)
  rw [queryWith, Flow.bind_ok hask]
  simp only [Completion.writing, length_le32, hword, hrequired]

end

/-- A client that asks for the module of a driver learns all about it, at the latest with the second
buffer. -/
lemma queryOver_eq {address : UInt64} {m : Module ρ} {k : Keyed ρ} (hk : Keyed.Numbers m k)
    (hfirst : ask ControlCode.query.code (le64 address) (blankBuffer 1024) s
      = (.ok (Driver.writeImage k (blankBuffer 1024)), s₁))
    (hsecond : ask ControlCode.query.code (le64 address) (blankBuffer k.size) s₁
      = (.ok (Driver.writeImage k (blankBuffer k.size)), s₂)) :
    queryOver ask address s
      = (.ok (.ok (infoOf k)), if k.size ≤ 1024 then s₁ else s₂) := by
  rw [queryOver, maxAttempts]
  by_cases h : k.size ≤ 1024
  · rw [if_pos h, queryWith_of_le hk hfirst h]
  · rw [if_neg h, queryWith_of_lt hk hfirst (by omega) (by omega),
      queryWith_of_le hk hsecond (Nat.le_refl _)]

/-- A request that fails is the last. -/
lemma queryOver_error {address : UInt64} {why : ControlError}
    (hask : ask ControlCode.query.code (le64 address) (blankBuffer 1024) s
      = (.ok (.error why), s₁)) :
    queryOver ask address s = (.ok (.error (.control why)), s₁) := by
  rw [queryOver, maxAttempts, queryWith, Flow.bind_ok hask]
  rfl

/-- A client that asks for the module of a connection that can be found learns all about it. -/
lemma query_eq {w : World ρ ε} {address : UInt64} {c : ConnectionId} {x : Connection ρ}
    {m : Module ρ} (hfound : (w.device.lookup address).1 = .ok c) (hx : w.device.get? c = some x)
    (hk : Keyed.Numbers m x.routines) (exec : Routines ρ ε) :
    query exec address w = (.ok (.ok (infoOf x.routines)), w) := by
  have hask := Driver.control_query_eq hfound hx exec
  rw [query, queryOver_eq hk (hask _) (hask _), ite_self]

end Client

end Testbench
