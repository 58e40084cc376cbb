import ArchosGpl.F2m.Vlc

/-!
# The code tables (`flvdecoder.c`, `flv.h`, `m4vencode.c`, `flv2mpeg4.c`)

The tables as the source has them; the decoder's are written with repetition counts (`rle`).

**Each decoding table decodes the code words of the encoder's table** (`intra_MCBPC_decodes`,
`inter_MCBPC_decodes`, `cbpy_decodes`, `rl_inter_decodes`). The encoder copies motion vectors and
has no table for them, so `mv_vlc` lists the words of `vlc_table_mv` (`mv_decodes`); the only
strings that are not among them start with eleven zeros (`mv_invalid`).
-/

namespace ArchosGpl.F2m

open Lib

/-- A table given with repetition counts. -/
def rle (runs : List (ℕ × ℤ × ℤ)) : List VLCtab :=
  runs.flatMap fun r => List.replicate r.1 ⟨r.2.1, r.2.2⟩

/-! ## The decoder's tables -/

/-- The 72 entries; code 8 is stuffing. -/
def vlc_table_intra_MCBPC : List VLCtab := rle [
  (1, 64, -3), (1, 5, 6), (1, 6, 6), (1, 7, 6), (4, 4, 4), (8, 1, 3), (8, 2, 3), (8, 3, 3),
  (32, 0, 1), (1, -1, 0), (1, 8, 3), (6, -1, 0)]

/-- The 198 entries; code 20 is stuffing. -/
def vlc_table_inter_MCBPC : List VLCtab := rle [
  (1, 128, -6), (1, 192, -2), (1, 196, -1), (1, 7, 7), (1, 18, 7), (1, 17, 7), (1, 10, 7),
  (1, 9, 7), (2, 12, 6), (2, 3, 6), (4, 4, 5), (8, 2, 4), (8, 1, 4), (16, 16, 3), (16, 8, 3),
  (64, 0, 1), (8, -1, 0), (4, 24, 4), (1, 25, 6), (1, -1, 0), (1, 26, 6), (1, 27, 6),
  (16, 20, 2), (16, 15, 2), (16, 14, 2), (1, 13, 2), (1, 11, 2), (2, 6, 1), (1, 5, 1), (1, 19, 1)]

/-- The 64 entries. -/
def vlc_table_cbpy : List VLCtab := rle [
  (2, -1, 0), (1, 6, 6), (1, 9, 6), (2, 8, 5), (2, 4, 5), (2, 2, 5), (2, 1, 5), (4, 0, 4),
  (4, 12, 4), (4, 10, 4), (4, 14, 4), (4, 5, 4), (4, 13, 4), (4, 3, 4), (4, 11, 4), (4, 7, 4),
  (16, 15, 2)]

/-- The 554 entries; code 102 is the escape. -/
def vlc_table_rl_inter : List VLCtab := rle [
  (1, -1, 0), (1, 512, -2), (1, 516, -1), (1, 518, -1), (1, 520, -1), (1, 522, -1), (1, 524, -1),
  (1, 526, -1), (1, 528, -2), (1, 532, -2), (1, 536, -3), (1, 544, -3), (4, 102, 7),
  (1, 552, -1), (1, 85, 9), (1, 84, 9), (1, 83, 9), (1, 82, 9), (1, 81, 9), (1, 80, 9),
  (1, 79, 9), (1, 78, 9), (1, 59, 9), (1, 53, 9), (1, 52, 9), (1, 51, 9), (1, 50, 9), (1, 49, 9),
  (1, 48, 9), (1, 47, 9), (1, 46, 9), (1, 26, 9), (1, 23, 9), (1, 6, 9), (1, 5, 9), (2, 77, 8),
  (2, 76, 8), (2, 75, 8), (2, 74, 8), (2, 73, 8), (2, 72, 8), (2, 71, 8), (2, 70, 8), (2, 45, 8),
  (2, 44, 8), (2, 19, 8), (2, 14, 8), (2, 4, 8), (4, 69, 7), (4, 68, 7), (4, 67, 7), (4, 66, 7),
  (4, 43, 7), (4, 42, 7), (4, 40, 7), (4, 3, 7), (8, 65, 6), (8, 64, 6), (8, 63, 6), (8, 61, 6),
  (8, 38, 6), (8, 36, 6), (8, 34, 6), (8, 31, 6), (8, 13, 6), (8, 2, 6), (16, 28, 5),
  (16, 25, 5), (16, 22, 5), (32, 58, 4), (128, 0, 2), (64, 12, 3), (32, 18, 4), (32, 1, 4),
  (1, 62, 2), (1, 60, 2), (1, 10, 2), (1, 9, 2), (1, 89, 1), (1, 88, 1), (1, 87, 1), (1, 86, 1),
  (1, 39, 1), (1, 37, 1), (1, 35, 1), (1, 32, 1), (1, 29, 1), (1, 24, 1), (1, 20, 1), (1, 15, 1),
  (1, 11, 2), (1, 16, 2), (1, 54, 2), (1, 55, 2), (1, 90, 2), (1, 91, 2), (1, 92, 2), (1, 93, 2),
  (1, 17, 3), (1, 21, 3), (1, 27, 3), (1, 30, 3), (1, 33, 3), (1, 41, 3), (1, 56, 3), (1, 57, 3),
  (1, 94, 3), (1, 95, 3), (1, 96, 3), (1, 97, 3), (1, 98, 3), (1, 99, 3), (1, 100, 3),
  (1, 101, 3), (1, 8, 1), (1, 7, 1)]

/-- The 538 entries. -/
def vlc_table_mv : List VLCtab := rle [
  (1, 512, -3), (1, 520, -2), (1, 524, -1), (1, 526, -1), (1, 528, -1), (1, 530, -1),
  (1, 532, -1), (1, 534, -1), (1, 536, -1), (1, 10, 9), (1, 9, 9), (1, 8, 9), (4, 7, 7),
  (4, 6, 7), (4, 5, 7), (8, 4, 6), (32, 3, 4), (64, 2, 3), (128, 1, 2), (256, 0, 1), (2, -1, 0),
  (1, 32, 3), (1, 31, 3), (2, 30, 2), (2, 29, 2), (1, 28, 2), (1, 27, 2), (1, 26, 2), (1, 25, 2),
  (1, 24, 1), (1, 23, 1), (1, 22, 1), (1, 21, 1), (1, 20, 1), (1, 19, 1), (1, 18, 1), (1, 17, 1),
  (1, 16, 1), (1, 15, 1), (1, 14, 1), (1, 13, 1), (1, 12, 1), (1, 11, 1)]

/-! ## Code words and coefficients -/

def zig_zag_scan : List ℕ := [
  0, 1, 8, 16, 9, 2, 3, 10, 17, 24, 32, 25, 18, 11, 4, 5, 12, 19, 26, 33, 40, 48, 41, 34, 27, 20,
  13, 6, 7, 14, 21, 28, 35, 42, 49, 56, 57, 50, 43, 36, 29, 22, 15, 23, 30, 37, 44, 51, 58, 59,
  52, 45, 38, 31, 39, 46, 53, 60, 61, 54, 47, 55, 62, 63]

/-- The code words of the coefficient table, as number and length. -/
def rl_inter_vlc : List (ℕ × ℕ) := [
  (2, 2), (15, 4), (21, 6), (23, 7), (31, 8), (37, 9), (36, 9), (33, 10), (32, 10), (7, 11),
  (6, 11), (32, 11), (6, 3), (20, 6), (30, 8), (15, 10), (33, 11), (80, 12), (14, 4), (29, 8),
  (14, 10), (81, 12), (13, 5), (35, 9), (13, 10), (12, 5), (34, 9), (82, 12), (11, 5), (12, 10),
  (83, 12), (19, 6), (11, 10), (84, 12), (18, 6), (10, 10), (17, 6), (9, 10), (16, 6), (8, 10),
  (22, 7), (85, 12), (21, 7), (20, 7), (28, 8), (27, 8), (33, 9), (32, 9), (31, 9), (30, 9),
  (29, 9), (28, 9), (27, 9), (26, 9), (34, 11), (35, 11), (86, 12), (87, 12), (7, 4), (25, 9),
  (5, 11), (15, 6), (4, 11), (14, 6), (13, 6), (12, 6), (19, 7), (18, 7), (17, 7), (16, 7),
  (26, 8), (25, 8), (24, 8), (23, 8), (22, 8), (21, 8), (20, 8), (19, 8), (24, 9), (23, 9),
  (22, 9), (21, 9), (20, 9), (19, 9), (18, 9), (17, 9), (7, 10), (6, 10), (5, 10), (4, 10),
  (36, 11), (37, 11), (38, 11), (39, 11), (88, 12), (89, 12), (90, 12), (91, 12), (92, 12),
  (93, 12), (94, 12), (95, 12), (3, 7)]

def rl_inter_level : List ℤ := [
  1, 2, 3, 4, 5, 6, 7, 8, 9, 10, 11, 12, 1, 2, 3, 4, 5, 6, 1, 2, 3, 4, 1, 2, 3, 1, 2, 3, 1, 2, 3,
  1, 2, 3, 1, 2, 1, 2, 1, 2, 1, 2, 1, 1, 1, 1, 1, 1, 1, 1, 1, 1, 1, 1, 1, 1, 1, 1, 1, 2, 3, 1, 2,
  1, 1, 1, 1, 1, 1, 1, 1, 1, 1, 1, 1, 1, 1, 1, 1, 1, 1, 1, 1, 1, 1, 1, 1, 1, 1, 1, 1, 1, 1, 1, 1,
  1, 1, 1, 1, 1, 1, 1]

def rl_inter_run : List ℕ := [
  0, 0, 0, 0, 0, 0, 0, 0, 0, 0, 0, 0, 1, 1, 1, 1, 1, 1, 2, 2, 2, 2, 3, 3, 3, 4, 4, 4, 5, 5, 5, 6,
  6, 6, 7, 7, 8, 8, 9, 9, 10, 10, 11, 12, 13, 14, 15, 16, 17, 18, 19, 20, 21, 22, 23, 24, 25, 26,
  0, 0, 0, 1, 1, 2, 3, 4, 5, 6, 7, 8, 9, 10, 11, 12, 13, 14, 15, 16, 17, 18, 19, 20, 21, 22, 23,
  24, 25, 26, 27, 28, 29, 30, 31, 32, 33, 34, 35, 36, 37, 38, 39, 40]

def rl_inter_n : ℤ := 102

def rl_inter_last : ℤ := 58

/-- The code words of `vlc_table_mv`, as number and length. -/
def mv_vlc : List (ℕ × ℕ) := [
  (1, 1), (1, 2), (1, 3), (1, 4), (3, 6), (5, 7), (4, 7), (3, 7), (11, 9), (10, 9), (9, 9),
  (17, 10), (16, 10), (15, 10), (14, 10), (13, 10), (12, 10), (11, 10), (10, 10), (9, 10),
  (8, 10), (7, 10), (6, 10), (5, 10), (4, 10), (7, 11), (6, 11), (5, 11), (4, 11), (3, 11),
  (2, 11), (3, 12), (2, 12)]

/-! ## The encoder's tables -/

def vlce_intra_MCBPC_code : List ℕ := [
  1, 1, 2, 3, 1, 1, 2, 3, 1]

def vlce_intra_MCBPC_bits : List ℕ := [
  1, 3, 3, 3, 4, 6, 6, 6, 9]

def vlce_cbpy_code : List ℕ := [
  3, 5, 4, 9, 3, 7, 2, 11, 2, 3, 5, 10, 4, 8, 6, 3]

def vlce_cbpy_bits : List ℕ := [
  4, 5, 5, 4, 5, 4, 6, 4, 5, 6, 4, 4, 4, 4, 4, 2]

def vlce_inter_MCBPC_code : List ℕ := [
  1, 3, 2, 5, 3, 4, 3, 3, 3, 7, 6, 5, 4, 4, 3, 2, 2, 5, 4, 5, 1, 0, 0, 0, 2, 12, 14, 15]

def vlce_inter_MCBPC_bits : List ℕ := [
  1, 4, 4, 6, 5, 8, 8, 7, 3, 7, 7, 9, 6, 9, 9, 9, 3, 7, 7, 8, 9, 0, 0, 0, 11, 13, 13, 13]

def ff_mpeg4_y_dc_scale_table : List ℤ := [
  0, 8, 8, 8, 8, 10, 12, 14, 16, 17, 18, 19, 20, 21, 22, 23, 24, 25, 26, 27, 28, 29, 30, 31, 32,
  34, 36, 38, 40, 42, 44, 46]

def ff_mpeg4_c_dc_scale_table : List ℤ := [
  0, 8, 8, 8, 8, 9, 9, 10, 10, 11, 11, 12, 12, 13, 13, 14, 14, 15, 15, 16, 16, 17, 17, 18, 18,
  19, 20, 21, 22, 23, 24, 25]

/-! ## The words -/

/-- The words of the encoder's tables, as number and length. -/
def intraMcbpcWords : List (ℕ × ℕ) := vlce_intra_MCBPC_code.zip vlce_intra_MCBPC_bits

def interMcbpcWords : List (ℕ × ℕ) := vlce_inter_MCBPC_code.zip vlce_inter_MCBPC_bits

def cbpyWords : List (ℕ × ℕ) := vlce_cbpy_code.zip vlce_cbpy_bits

theorem intra_MCBPC_decodes : vlcDecodes vlc_table_intra_MCBPC 6 2 intraMcbpcWords = true := by
  decide +kernel

theorem inter_MCBPC_decodes : vlcDecodes vlc_table_inter_MCBPC 7 2 interMcbpcWords = true := by
  decide +kernel

theorem cbpy_decodes : vlcDecodes vlc_table_cbpy 6 1 cbpyWords = true := by decide +kernel

theorem rl_inter_decodes : vlcDecodes vlc_table_rl_inter 9 2 rl_inter_vlc = true := by
  decide +kernel

theorem mv_decodes : vlcDecodes vlc_table_mv 9 2 mv_vlc = true := by decide +kernel

theorem mv_invalid :
    vlcAll vlc_table_mv 9 2 (fun c k W => decide (0 ≤ c) || k == 9 && W.take 11 == natBits 11 0)
      = true := by
  decide +kernel

end ArchosGpl.F2m
