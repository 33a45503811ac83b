/-
  The mapping of characters in hosts.

  Hosts that differ only in case, in width or in the like are the same host, so each character
  is mapped before anything else is done: most stay as they are, some are dropped, some are
  replaced, and some no host may hold.
-/
import TxRelay.Unicode.Runs

namespace TxRelay.Url.HostMapping

/-- What the mapping does to the characters of a run. -/
inductive Rule where
  | kept
  | refused
  | dropped
  /-- Each becomes the one so many code points away. -/
  | shifted (distance : Int)
  /-- In turn: the first becomes the second, which is kept. -/
  | paired
  | replaced (target : List Char)
deriving DecidableEq, Repr

/-- The characters whose numbers points set apart; `fuel` bounds how many there are. -/
def characters : (fuel : Nat) → List Char → List Char
  | 0, _ => []
  | fuel + 1, cs =>
    let (n, rest) := Unicode.Runs.number 0 cs
    match rest with
    | [] => [Char.ofNat n]
    | _ :: rest => Char.ofNat n :: characters fuel rest

/-- The rule that a tag stands for in the table. -/
def Rule.ofTag : List Char → Rule
  | ['V'] => .kept
  | ['I'] => .dropped
  | ['P'] => .paired
  | 'S' :: '+' :: digits => .shifted (Unicode.Runs.hex digits)
  | 'S' :: '-' :: digits => .shifted (-Unicode.Runs.hex digits)
  | 'M' :: digits => .replaced (characters digits.length digits)
  | _ => .refused

/-- The rules of the code points. -/
def runs : Unicode.Runs Rule := Unicode.Runs.read Rule.ofTag
  "41V 1aS+20 25V 20X M20 7V M20.308 1V M61 2V 1I 1V M20.304 2V 2S-80 M20.301 M3bc 2V M20.327 M31
  M6f 1V M31.2044.34 M31.2044.32 M33.2044.34 1V 17S+20 1V 7S+20 21V 30P M69.307 1V M69.6a M69.6a
  4P 1V 6P M6c.b7 M6c.b7 8P M2bc.6e 2eP Mff 6P M73 1V M253 4P M254 M188 1V 2S+cd M18c 2V M1dd M259
  M25b M192 1V M260 M263 1V M269 M268 M199 3V M26f M272 1V M275 6P M280 M1a8 1V M283 2V M1ad 1V
  M288 M1b0 1V 2S+d9 4P M292 M1b9 3V M1bd 7V M64.17e M64.17e M64.17e M6c.6a M6c.6a M6c.6a M6e.6a
  M6e.6a M6e.6a 10P 1V 12P 1V M64.7a M64.7a M64.7a M1f5 1V M195 M1bf 28P M19e 1V 12P 6V M2c65 M23c
  1V M19a M2c66 2V M242 1V M180 M289 M28c aP 60V M68 M266 M6a M72 M279 M27b M281 M77 M79 1fV
  M20.306 M20.307 M20.30a M20.328 M20.303 M20.30b 2V M263 M6c M73 M78 M295 5bV 2S-40 1V M313
  M308.301 M3b9 9V 1I 20V 4P M2b9 1V M377 1V 2X M20.3b9 3V M3b M3f3 4X M20.301 M20.308.301 M3ac
  Mb7 3S+25 1X M3cc 1X 2S+3f 1V 11S+20 1X 9S+20 23V M3d7 M3b2 M3b8 M3c5 M3cd M3cb M3c6 M3c0 1V 18P
  M3ba M3c1 M3c3 1V M3b8 M3b5 1V M3f8 1V M3c3 M3fb 2V 3S-82 10S+50 20S+20 30V 22P 8V 36P M4cf eP
  1V 60P 1X 26S+30 2X 2eV M565.582 3V 2X 3V 1X 37V 8X 1bV 4X 6V 11X 16V 1X 58V M627.674 M648.674
  M6c7.674 M64a.674 64V 1X 30V 2X 3bV 2X 65V eX 3bV 2X 31V 2X fV 1X 1cV 2X 1V 1X bV 5X 20V 7X 4bV
  1X 75V M915.93c M916.93c M917.93c M91c.93c M921.93c M922.93c M92b.93c M92f.93c 24V 1X 8V 2X 2V
  2X 16V 1X 7V 1X 1V 3X 4V 2X 9V 2X 2V 2X 4V 8X 1V 4X M9a1.9bc M9a2.9bc 1X M9af.9bc 4V 2X 19V 2X
  3V 1X 6V 4X 2V 2X 16V 1X 7V 1X 1V Ma32.a3c 1X 1V Ma38.a3c 1X 2V 2X 1V 1X 5V 4X 2V 2X 3V 3X 1V 7X
  Ma16.a3c Ma17.a3c Ma1c.a3c 1V 1X Ma2b.a3c 7X 11V aX 3V 1X 9V 1X 3V 1X 16V 1X 7V 1X 2V 1X 5V 2X
  aV 1X 3V 1X 3V 2X 1V fX 4V 2X cV 7X 7V 1X 3V 1X 8V 2X 2V 2X 16V 1X 7V 1X 2V 1X 5V 2X 9V 2X 2V 2X
  3V 7X 3V 4X Mb21.b3c Mb22.b3c 1X 5V 2X 12V aX 2V 1X 6V 3X 3V 1X 4V 3X 2V 1X 1V 1X 2V 3X 2V 3X 3V
  3X cV 4X 5V 3X 3V 1X 4V 2X 1V 6X 1V eX 15V 5X dV 1X 3V 1X 17V 1X 10V 2X 9V 1X 3V 1X 4V 7X 2V 1X
  3V 1X 2V 2X 4V 2X aV 7X 16V 1X 3V 1X 17V 1X aV 1X 5V 2X 9V 1X 3V 1X 4V 7X 2V 5X 3V 1X 4V 2X aV
  1X 3V cX dV 1X 3V 1X 33V 1X 3V 1X 6V 4X 10V 2X 1aV 1X 3V 1X 12V 3X 18V 1X 9V 1X 1V 2X 7V 3X 1V
  4X 6V 1X 1V 1X 8V 6X aV 2X 3V cX 32V Me4d.e32 7V 4X 1dV 25X 2V 1X 1V 1X 5V 1X 18V 1X 1V 1X cV
  Mecd.eb2 aV 2X 5V 1X 1V 1X 7V 1X aV 2X Meab.e99 Meab.ea1 2V 20X cV Mf0b 36V Mf42.fb7 4V 1X 4V
  Mf4c.fb7 4V Mf51.fb7 4V Mf56.fb7 4V Mf5b.fb7 cV Mf40.fb5 3V 4X 2V Mf71.f72 1V Mf71.f74 Mfb2.f80
  Mfb2.f71.f80 Mfb3.f80 Mfb3.f71.f80 7V Mf71.f80 11V Mf92.fb7 4V 1X 4V Mf9c.fb7 4V Mfa1.fb7 4V
  Mfa6.fb7 4V Mfab.fb7 cV Mf90.fb5 3V 1X fV 1X dV 25X a0V 26S+1c60 1X M2d27 5X M2d2d 2X 2cV M10dc
  62V 2I e8V 1X 4V 2X 7V 1X 1V 1X 4V 2X 29V 1X 4V 2X 21V 1X 4V 2X 7V 1X 1V 1X 4V 2X fV 1X 39V 1X
  4V 2X 43V 2X 20V 3X 1aV 6X 56V 2X 6S-8 2X 280V 1X 1cV 3X 59V 7X 16V 9X 18V 9X 14V cX dV 1X 3V 1X
  2V cX 34V 2I 28V 2X aV 6X aV 6X bV 5I aV 6X 59V 7X 2bV 5X 46V aX 1fV 1X cV 4X cV 4X 1V 3X 2aV 2X
  5V bX 2cV 4X 1aV 6X bV 3X 3eV 2X 41V 1X 1dV 2X bV 6X aV 6X eV 2X 2eV 2X cV 14X 4dV 1X a6V 8X 3cV
  3X fV 3X 33V M432 M434 M43e 2S-1842 M442 M44a M463 Ma64b M1c8a 1V 5X 2bS-bc0 2X 3S-bc0 8V 8X 2bV
  5X 2cV M61 Me6 M62 1V 2S-1ccc M1dd 8S-1ccc 1V M6f M223 M70 M72 2S-1ccc M77 M61 2S-1af4 M1d02 M62
  2S-1ce4 M259 2S-1af0 M67 1V M6b M6d M14b M6f M254 2S-3e M70 2S-1ce3 M1d1d M26f M76 M1d25 3S-19ab
  2S-199a M69 M72 2S-1cef 2S-19b4 M3c1 2S-19a3 dV M43d 22V M252 M63 M255 Mf0 M25c M66 M25f M261
  M265 3S-1b3c M1d7b M29d M26d M1d85 M29f M271 M270 4S-1b3c M278 2S-1b31 M1ab 2S-1b2d M1d1c
  2S-1b2e M7a 3S-1b2c M3b8 40V 96P 4V M61.2be M1e61 2V Mdf 1V 60P 8V 8S-8 6V 2X 6S-8 2X 8V 8S-8 8V
  8S-8 6V 2X 6S-8 2X 8V 1X M1f51 1X M1f53 1X M1f55 1X M1f57 8V 8S-8 1V M3ac 1V M3ad 1V M3ae 1V
  M3af 1V M3cc 1V M3cd 1V M3ce 2X M1f00.3b9 M1f01.3b9 M1f02.3b9 M1f03.3b9 M1f04.3b9 M1f05.3b9
  M1f06.3b9 M1f07.3b9 M1f00.3b9 M1f01.3b9 M1f02.3b9 M1f03.3b9 M1f04.3b9 M1f05.3b9 M1f06.3b9
  M1f07.3b9 M1f20.3b9 M1f21.3b9 M1f22.3b9 M1f23.3b9 M1f24.3b9 M1f25.3b9 M1f26.3b9 M1f27.3b9
  M1f20.3b9 M1f21.3b9 M1f22.3b9 M1f23.3b9 M1f24.3b9 M1f25.3b9 M1f26.3b9 M1f27.3b9 M1f60.3b9
  M1f61.3b9 M1f62.3b9 M1f63.3b9 M1f64.3b9 M1f65.3b9 M1f66.3b9 M1f67.3b9 M1f60.3b9 M1f61.3b9
  M1f62.3b9 M1f63.3b9 M1f64.3b9 M1f65.3b9 M1f66.3b9 M1f67.3b9 2V M1f70.3b9 M3b1.3b9 M3ac.3b9 1X 1V
  M1fb6.3b9 2S-8 M1f70 M3ac M3b1.3b9 M20.313 M3b9 M20.313 M20.342 M20.308.342 M1f74.3b9 M3b7.3b9
  M3ae.3b9 1X 1V M1fc6.3b9 M1f72 M3ad M1f74 M3ae M3b7.3b9 M20.313.300 M20.313.301 M20.313.342 3V
  M390 2X 2V 2S-8 M1f76 M3af 1X M20.314.300 M20.314.301 M20.314.342 3V M3b0 4V 2S-8 M1f7a M3cd
  M1fe5 M20.308.300 M20.308.301 M60 2X M1f7c.3b9 M3c9.3b9 M3ce.3b9 1X 1V M1ff6.3b9 M1f78 M3cc
  M1f7c M3ce M3c9.3b9 M20.301 M20.314 1X M20 M20 M20 M20 M20 M20 M20 M20 M20 M20 M20 1I 2V 2X 1V
  M2010 5V M20.333 cV 3X 1V 7X M20 3V M2032.2032 M2032.2032.2032 1V M2035.2035 M2035.2035.2035 4V
  M21.21 1V M20.305 8V M3f.3f M3f.21 M21.3f dV M2032.2032.2032.2032 7V M20 5I 5X 6I M30 M69 2X
  6S-2040 M2b M2212 M3d 2S-2055 M6e aS-2050 M2b M2212 M3d 2S-2065 1X M61 M65 M6f M78 M259 M68
  4S-202b M70 2S-2028 3X 8V M72.73 19V eX 21V fX M61.2f.63 M61.2f.73 M63 Mb0.63 1V M63.2f.6f
  M63.2f.75 M25b 1V Mb0.66 2S-20a3 M68 M68 M68 M127 M69 M69 M6c M6c 1V M6e M6e.6f 2V 3S-20a9 M72
  M72 2V M73.6d M74.65.6c M74.6d 1V M7a 1V M3c9 1V M7a 1V M6b Me5 2S-20ca 1V M65 2S-20cb M214e M6d
  M6f 4S-1b65 M69 1V M66.61.78 M3c0 M3b3 M3b3 M3c0 M2211 4V M64 2S-20e2 2S-20df 6V M31.2044.37
  M31.2044.39 M31.2044.31.30 M31.2044.33 M32.2044.33 M31.2044.35 M32.2044.35 M33.2044.35
  M34.2044.35 M31.2044.36 M35.2044.36 M31.2044.38 M33.2044.38 M35.2044.38 M37.2044.38 M31.2044 M69
  M69.69 M69.69.69 M69.76 M76 M76.69 M76.69.69 M76.69.69.69 M69.78 M78 M78.69 M78.69.69 M6c
  2S-210a M6d M69 M69.69 M69.69.69 M69.76 M76 M76.69 M76.69.69 M76.69.69.69 M69.78 M78 M78.69
  M78.69.69 M6c 2S-211a M6d 3V M2184 5V M30.2044.33 2V 4X 9cV M222b.222b M222b.222b.222b 1V
  M222e.222e M222e.222e.222e f8V 2S+cdf ffV 16X bV 15X 9S-242f M31.30 M31.31 M31.32 M31.33 M31.34
  M31.35 M31.36 M31.37 M31.38 M31.39 M32.30 M28.31.29 M28.32.29 M28.33.29 M28.34.29 M28.35.29
  M28.36.29 M28.37.29 M28.38.29 M28.39.29 M28.31.30.29 M28.31.31.29 M28.31.32.29 M28.31.33.29
  M28.31.34.29 M28.31.35.29 M28.31.36.29 M28.31.37.29 M28.31.38.29 M28.31.39.29 M28.32.30.29 14X
  M28.61.29 M28.62.29 M28.63.29 M28.64.29 M28.65.29 M28.66.29 M28.67.29 M28.68.29 M28.69.29
  M28.6a.29 M28.6b.29 M28.6c.29 M28.6d.29 M28.6e.29 M28.6f.29 M28.70.29 M28.71.29 M28.72.29
  M28.73.29 M28.74.29 M28.75.29 M28.76.29 M28.77.29 M28.78.29 M28.79.29 M28.7a.29 1aS-2455
  1aS-246f M30 521V M222b.222b.222b.222b 67V M3a.3a.3d M3d.3d M3d.3d.3d 65V M2add.338 97V 2X 8aV
  30S+30 30V M2c61 1V M26b M1d7d M27d 2V 6P M251 M271 M250 M252 1V M2c73 2V M2c76 6V M6a M76
  2S-2a3f 64P 7V 4P 3V M2cf3 1V 5X 2dV 1X 1V 5X 1V 2X 38V 7X M2d61 1V eX 18V 9X 7V 1X 7V 1X 7V 1X
  7V 1X 7V 1X 7V 1X 7V 1X 7V 1X 7eV 22X 1aV 1X 4V M6bcd 53V M9f9f cX M4e00 M4e28 M4e36 M4e3f M4e59
  M4e85 M4e8c M4ea0 M4eba M513f M5165 M516b M5182 M5196 M51ab M51e0 M51f5 M5200 M529b M52f9 M5315
  M531a M5338 M5341 M535c M5369 M5382 M53b6 M53c8 M53e3 M56d7 M571f M58eb M5902 M590a M5915 M5927
  M5973 M5b50 M5b80 M5bf8 M5c0f M5c22 M5c38 M5c6e M5c71 M5ddb M5de5 M5df1 M5dfe M5e72 M5e7a M5e7f
  M5ef4 M5efe M5f0b M5f13 M5f50 M5f61 M5f73 M5fc3 M6208 M6236 M624b M652f M6534 M6587 M6597 M65a4
  M65b9 M65e0 M65e5 M66f0 M6708 M6728 M6b20 M6b62 M6b79 M6bb3 M6bcb M6bd4 M6bdb M6c0f M6c14 M6c34
  M706b M722a M7236 M723b M723f M7247 M7259 M725b M72ac M7384 M7389 M74dc M74e6 M7518 M751f M7528
  M7530 M758b M7592 M7676 M767d M76ae M76bf M76ee M77db M77e2 M77f3 M793a M79b8 M79be M7a74 M7acb
  M7af9 M7c73 M7cf8 M7f36 M7f51 M7f8a M7fbd M8001 M800c M8012 M8033 M807f M8089 M81e3 M81ea M81f3
  M81fc M820c M821b M821f M826e M8272 M8278 M864d M866b M8840 M884c M8863 M897e M898b M89d2 M8a00
  M8c37 M8c46 M8c55 M8c78 M8c9d M8d64 M8d70 M8db3 M8eab M8eca M8f9b M8fb0 M8fb5 M9091 M9149 M91c6
  M91cc M91d1 M9577 M9580 M961c M96b6 M96b9 M96e8 M9751 M975e M9762 M9769 M97cb M97ed M97f3 M9801
  M98a8 M98db M98df M9996 M9999 M99ac M9aa8 M9ad8 M9adf M9b25 M9b2f M9b32 M9b3c M9b5a M9ce5 M9e75
  M9e7f M9ea5 M9ebb M9ec3 M9ecd M9ed1 M9ef9 M9efd M9f0e M9f13 M9f20 M9f3b M9f4a M9f52 M9f8d M9f9c
  M9fa0 2aX M20 1V M2e 33V M3012 1V M5341 2S+230b 5V 1X 56V 2X 2V M20.3099 M20.309a 2V M3088.308a
  5fV M30b3.30c8 5X 2bV 1X 2S-2031 M11aa M1102 2S-1f89 3S-2034 6S-1f8a M111a 3S-203b M1121 aS-203c
  15S-1fee 1I 2S-2051 2S-1fa0 M11cc M11ce M11d3 M11d7 M11d9 M111c M11dd M11df 2S-2054 M1120
  2S-2052 M1127 M1129 5S-204d M1132 M1136 M1140 M1147 M114c 2S-1f91 3S-202d 2S-2003 M1188 2S-1ff9
  M1194 M119e M11a1 1X 2V M4e00 M4e8c M4e09 M56db M4e0a M4e2d M4e0b M7532 M4e59 M4e19 M4e01 M5929
  M5730 M4eba 46V aX 10V M28.1100.29 M28.1102.29 M28.1103.29 M28.1105.29 M28.1106.29 M28.1107.29
  M28.1109.29 M28.110b.29 M28.110c.29 M28.110e.29 M28.110f.29 M28.1110.29 M28.1111.29 M28.1112.29
  M28.ac00.29 M28.b098.29 M28.b2e4.29 M28.b77c.29 M28.b9c8.29 M28.bc14.29 M28.c0ac.29 M28.c544.29
  M28.c790.29 M28.cc28.29 M28.ce74.29 M28.d0c0.29 M28.d30c.29 M28.d558.29 M28.c8fc.29
  M28.c624.c804.29 M28.c624.d6c4.29 1X M28.4e00.29 M28.4e8c.29 M28.4e09.29 M28.56db.29 M28.4e94.29
  M28.516d.29 M28.4e03.29 M28.516b.29 M28.4e5d.29 M28.5341.29 M28.6708.29 M28.706b.29 M28.6c34.29
  M28.6728.29 M28.91d1.29 M28.571f.29 M28.65e5.29 M28.682a.29 M28.6709.29 M28.793e.29 M28.540d.29
  M28.7279.29 M28.8ca1.29 M28.795d.29 M28.52b4.29 M28.4ee3.29 M28.547c.29 M28.5b66.29 M28.76e3.29
  M28.4f01.29 M28.8cc7.29 M28.5354.29 M28.796d.29 M28.4f11.29 M28.81ea.29 M28.81f3.29 M554f M5e7c
  M6587 M7b8f 8V M70.74.65 M32.31 M32.32 M32.33 M32.34 M32.35 M32.36 M32.37 M32.38 M32.39 M33.30
  M33.31 M33.32 M33.33 M33.34 M33.35 M1100 2S-215f 3S-215e M1109 2S-215c 5S-215b Mac00 Mb098 Mb2e4
  Mb77c Mb9c8 Mbc14 Mc0ac Mc544 Mc790 Mcc28 Mce74 Md0c0 Md30c Md558 Mcc38.ace0 Mc8fc.c758 Mc6b0 1V
  M4e00 M4e8c M4e09 M56db M4e94 M516d M4e03 M516b M4e5d M5341 M6708 M706b M6c34 M6728 M91d1 M571f
  M65e5 M682a M6709 M793e M540d M7279 M8ca1 M795d M52b4 M79d8 M7537 M5973 M9069 M512a M5370 M6ce8
  M9805 M4f11 M5199 M6b63 M4e0a M4e2d M4e0b M5de6 M53f3 M533b M5b97 M5b66 M76e3 M4f01 M8cc7 M5354
  M591c M33.36 M33.37 M33.38 M33.39 M34.30 M34.31 M34.32 M34.33 M34.34 M34.35 M34.36 M34.37 M34.38
  M34.39 M35.30 M31.6708 M32.6708 M33.6708 M34.6708 M35.6708 M36.6708 M37.6708 M38.6708 M39.6708
  M31.30.6708 M31.31.6708 M31.32.6708 M68.67 M65.72.67 M65.76 M6c.74.64 M30a2 M30a4 M30a6 M30a8
  2S-22a M30ad M30af M30b1 M30b3 M30b5 M30b7 M30b9 M30bb M30bd M30bf M30c1 M30c4 M30c6 M30c8
  6S-21a M30d2 M30d5 M30d8 M30db 5S-210 M30e4 M30e6 6S-20d 4S-20c M4ee4.548c M30a2.30d1.30fc.30c8
  M30a2.30eb.30d5.30a1 M30a2.30f3.30da.30a2 M30a2.30fc.30eb M30a4.30cb.30f3.30b0 M30a4.30f3.30c1
  M30a6.30a9.30f3 M30a8.30b9.30af.30fc.30c9 M30a8.30fc.30ab.30fc M30aa.30f3.30b9 M30aa.30fc.30e0
  M30ab.30a4.30ea M30ab.30e9.30c3.30c8 M30ab.30ed.30ea.30fc M30ac.30ed.30f3 M30ac.30f3.30de
  M30ae.30ac M30ae.30cb.30fc M30ad.30e5.30ea.30fc M30ae.30eb.30c0.30fc M30ad.30ed
  M30ad.30ed.30b0.30e9.30e0 M30ad.30ed.30e1.30fc.30c8.30eb M30ad.30ed.30ef.30c3.30c8
  M30b0.30e9.30e0 M30b0.30e9.30e0.30c8.30f3 M30af.30eb.30bc.30a4.30ed M30af.30ed.30fc.30cd
  M30b1.30fc.30b9 M30b3.30eb.30ca M30b3.30fc.30dd M30b5.30a4.30af.30eb M30b5.30f3.30c1.30fc.30e0
  M30b7.30ea.30f3.30b0 M30bb.30f3.30c1 M30bb.30f3.30c8 M30c0.30fc.30b9 M30c7.30b7 M30c9.30eb
  M30c8.30f3 M30ca.30ce M30ce.30c3.30c8 M30cf.30a4.30c4 M30d1.30fc.30bb.30f3.30c8 M30d1.30fc.30c4
  M30d0.30fc.30ec.30eb M30d4.30a2.30b9.30c8.30eb M30d4.30af.30eb M30d4.30b3 M30d3.30eb
  M30d5.30a1.30e9.30c3.30c9 M30d5.30a3.30fc.30c8 M30d6.30c3.30b7.30a7.30eb M30d5.30e9.30f3
  M30d8.30af.30bf.30fc.30eb M30da.30bd M30da.30cb.30d2 M30d8.30eb.30c4 M30da.30f3.30b9
  M30da.30fc.30b8 M30d9.30fc.30bf M30dd.30a4.30f3.30c8 M30dc.30eb.30c8 M30db.30f3 M30dd.30f3.30c9
  M30db.30fc.30eb M30db.30fc.30f3 M30de.30a4.30af.30ed M30de.30a4.30eb M30de.30c3.30cf
  M30de.30eb.30af M30de.30f3.30b7.30e7.30f3 M30df.30af.30ed.30f3 M30df.30ea
  M30df.30ea.30d0.30fc.30eb M30e1.30ac M30e1.30ac.30c8.30f3 M30e1.30fc.30c8.30eb M30e4.30fc.30c9
  M30e4.30fc.30eb M30e6.30a2.30f3 M30ea.30c3.30c8.30eb M30ea.30e9 M30eb.30d4.30fc
  M30eb.30fc.30d6.30eb M30ec.30e0 M30ec.30f3.30c8.30b2.30f3 M30ef.30c3.30c8 M30.70b9 M31.70b9
  M32.70b9 M33.70b9 M34.70b9 M35.70b9 M36.70b9 M37.70b9 M38.70b9 M39.70b9 M31.30.70b9 M31.31.70b9
  M31.32.70b9 M31.33.70b9 M31.34.70b9 M31.35.70b9 M31.36.70b9 M31.37.70b9 M31.38.70b9 M31.39.70b9
  M32.30.70b9 M32.31.70b9 M32.32.70b9 M32.33.70b9 M32.34.70b9 M68.70.61 M64.61 M61.75 M62.61.72
  M6f.76 M70.63 M64.6d M64.6d.32 M64.6d.33 M69.75 M5e73.6210 M662d.548c M5927.6b63 M660e.6cbb
  M682a.5f0f.4f1a.793e M70.61 M6e.61 M3bc.61 M6d.61 M6b.61 M6b.62 M6d.62 M67.62 M63.61.6c
  M6b.63.61.6c M70.66 M6e.66 M3bc.66 M3bc.67 M6d.67 M6b.67 M68.7a M6b.68.7a M6d.68.7a M67.68.7a
  M74.68.7a M3bc.6c M6d.6c M64.6c M6b.6c M66.6d M6e.6d M3bc.6d M6d.6d M63.6d M6b.6d M6d.6d.32
  M63.6d.32 M6d.32 M6b.6d.32 M6d.6d.33 M63.6d.33 M6d.33 M6b.6d.33 M6d.2215.73 M6d.2215.73.32
  M70.61 M6b.70.61 M6d.70.61 M67.70.61 M72.61.64 M72.61.64.2215.73 M72.61.64.2215.73.32 M70.73
  M6e.73 M3bc.73 M6d.73 M70.76 M6e.76 M3bc.76 M6d.76 M6b.76 M6d.76 M70.77 M6e.77 M3bc.77 M6d.77
  M6b.77 M6d.77 M6b.3c9 M6d.3c9 1X M62.71 M63.63 M63.64 M63.2215.6b.67 1X M64.62 M67.79 M68.61
  M68.70 M69.6e M6b.6b M6b.6d M6b.74 M6c.6d M6c.6e M6c.6f.67 M6c.78 M6d.62 M6d.69.6c M6d.6f.6c
  M70.68 1X M70.70.6d M70.72 M73.72 M73.76 M77.62 M76.2215.6d M61.2215.6d M31.65e5 M32.65e5
  M33.65e5 M34.65e5 M35.65e5 M36.65e5 M37.65e5 M38.65e5 M39.65e5 M31.30.65e5 M31.31.65e5
  M31.32.65e5 M31.33.65e5 M31.34.65e5 M31.35.65e5 M31.36.65e5 M31.37.65e5 M31.38.65e5 M31.39.65e5
  M32.30.65e5 M32.31.65e5 M32.32.65e5 M32.33.65e5 M32.34.65e5 M32.35.65e5 M32.36.65e5 M32.37.65e5
  M32.38.65e5 M32.39.65e5 M33.30.65e5 M33.31.65e5 M67.61.6c 708dV 3X 37V 9X 15cV 14X 2eP 12V 1cP
  M44a M44c 5aV 8X 22V eP 2V 3eP Ma76f 8V 4P M1d79 aP 3V Ma78c 1V M265 2V 4P 2V 14P M266 M25c M261
  M26c M26a 1V M29e M287 M29d Mab53 10P Ma794 M282 M1d8e 4P M264 10P M19b 14X M73 M63 M66 M71
  Ma7f6 2V M127 M153 33V 3X aV 6X 38V 8X 46V 8X cV 6X 74V bX 1eV 3X 4eV 1X bV 4X 21V 1X 37V 9X eV
  2X aV 2X 67V 18X 1cV aX 6V 2X 6V 2X 6V 9X 7V 1X 7V 1X 2cV Ma727 Mab37 M26b Mab52 9V M28d 2V 4X
  50S-97d0 2eV 2X aV 6X 2ba4V cX 17V 4X 31V 2104X M8c48 M66f4 M8eca M8cc8 M6ed1 M4e32 M53e5 M9f9c
  M9f9c M5951 M91d1 M5587 M5948 M61f6 M7669 M7f85 M863f M87ba M88f8 M908f M6a02 M6d1b M70d9 M73de
  M843d M916a M99f1 M4e82 M5375 M6b04 M721b M862d M9e1e M5d50 M6feb M85cd M8964 M62c9 M81d8 M881f
  M5eca M6717 M6d6a M72fc M90ce M4f86 M51b7 M52de M64c4 M6ad3 M7210 M76e7 M8001 M8606 M865c M8def
  M9732 M9b6f M9dfa M788c M797f M7da0 M83c9 M9304 M9e7f M8ad6 M58df M5f04 M7c60 M807e M7262 M78ca
  M8cc2 M96f7 M58d8 M5c62 M6a13 M6dda M6f0f M7d2f M7e37 M964b M52d2 M808b M51dc M51cc M7a1c M7dbe
  M83f1 M9675 M8b80 M62cf M6a02 M8afe M4e39 M5be7 M6012 M7387 M7570 M5317 M78fb M4fbf M5fa9 M4e0d
  M6ccc M6578 M7d22 M53c3 M585e M7701 M8449 M8aaa M6bba M8fb0 M6c88 M62fe M82e5 M63a0 M7565 M4eae
  M5169 M51c9 M6881 M7ce7 M826f M8ad2 M91cf M52f5 M5442 M5973 M5eec M65c5 M6ffe M792a M95ad M9a6a
  M9e97 M9ece M529b M66c6 M6b77 M8f62 M5e74 M6190 M6200 M649a M6f23 M7149 M7489 M79ca M7df4 M806f
  M8f26 M84ee M9023 M934a M5217 M52a3 M54bd M70c8 M88c2 M8aaa M5ec9 M5ff5 M637b M6bae M7c3e M7375
  M4ee4 M56f9 M5be7 M5dba M601c M73b2 M7469 M7f9a M8046 M9234 M96f6 M9748 M9818 M4f8b M79ae M91b4
  M96b8 M60e1 M4e86 M50da M5bee M5c3f M6599 M6a02 M71ce M7642 M84fc M907c M9f8d M6688 M962e M5289
  M677b M67f3 M6d41 M6e9c M7409 M7559 M786b M7d10 M985e M516d M622e M9678 M502b M5d19 M6dea M8f2a
  M5f8b M6144 M6817 M7387 M9686 M5229 M540f M5c65 M6613 M674e M68a8 M6ce5 M7406 M75e2 M7f79 M88cf
  M88e1 M91cc M96e2 M533f M6eba M541d M71d0 M7498 M85fa M96a3 M9c57 M9e9f M6797 M6dcb M81e8 M7acb
  M7b20 M7c92 M72c0 M7099 M8b58 M4ec0 M8336 M523a M5207 M5ea6 M62d3 M7cd6 M5b85 M6d1e M66b4 M8f3b
  M884c M964d M898b M5ed3 M5140 M55c0 2V M585a 1V M6674 2V M51de M732a M76ca M793c M795e M7965
  M798f M9756 M7cbe M7fbd 1V M8612 1V M8af8 2V M9038 M90fd 3V M98ef M98fc M9928 M9db4 M90de M96b7
  M4fae M50e7 M514d M52c9 M52e4 M5351 M559d M5606 M5668 M5840 M58a8 M5c64 M5c6e M6094 M6168 M618e
  M61f2 M654f M65e2 M6691 M6885 M6d77 M6e1a M6f22 M716e M722b M7422 M7891 M793e M7949 M7948 M7950
  M7956 M795d 2S-80c5 M7a40 M7a81 M7bc0 M7df4 M7e09 M7e41 M7f72 M8005 M81ed M8279 M8279 M8457
  M8910 M8996 M8b01 M8b39 M8cd3 M8d08 M8fb6 M9038 M96e3 M97ff M983b M6075 M242ee M8218 2X M4e26
  M51b5 M5168 M4f80 M5145 M5180 M52c7 M52fa M559d M5555 M5599 M55e2 M585a M58b3 M5944 M5954 M5a62
  M5b28 M5ed2 M5ed9 M5f69 M5fad M60d8 M614e M6108 M618e M6160 M61f2 M6234 M63c4 M641c M6452 M6556
  M6674 M6717 M671b M6756 M6b79 M6bba M6d41 M6edb M6ecb M6f22 M701e M716e M77a7 M7235 M72af M732a
  M7471 M7506 M753b M761d M761f M76ca M76db M76f4 M774a M7740 M78cc M7ab1 M7bc0 M7c7b M7d5b M7df4
  M7f3e M8005 M8352 M83ef M8779 M8941 M8986 M8996 M8abf M8af8 M8acb M8b01 M8afe M8aed M8b39 M8b8a
  M8d08 M8f38 M9072 M9199 M9276 M967c M96e3 M9756 M97db M97ff M980b M983b M9b12 M9f9c M2284a
  M22844 M233d5 M3b9d M4018 M4039 M25249 M25cd0 M27ed3 M9f43 M9f8e 26X M66.66 M66.69 M66.6c
  M66.66.69 M66.66.6c M73.74 M73.74 cX M574.576 M574.565 M574.56b M57e.576 M574.56d 5X M5d9.5b4 1V
  M5f2.5b7 M5e2 M5d0 2S-f54f 3S-f549 M5e8 M5ea M2b M5e9.5c1 M5e9.5c2 M5e9.5bc.5c1 M5e9.5bc.5c2
  M5d0.5b7 M5d0.5b8 M5d0.5bc M5d1.5bc M5d2.5bc M5d3.5bc M5d4.5bc M5d5.5bc M5d6.5bc 1X M5d8.5bc
  M5d9.5bc M5da.5bc M5db.5bc M5dc.5bc 1X M5de.5bc 1X M5e0.5bc M5e1.5bc 1X M5e3.5bc M5e4.5bc 1X
  M5e6.5bc M5e7.5bc M5e8.5bc M5e9.5bc M5ea.5bc M5d5.5b9 M5d1.5bf M5db.5bf M5e4.5bf M5d0.5dc M671
  M671 M67b M67b M67b M67b M67e M67e M67e M67e M680 M680 M680 M680 M67a M67a M67a M67a M67f M67f
  M67f M67f M679 M679 M679 M679 M6a4 M6a4 M6a4 M6a4 M6a6 M6a6 M6a6 M6a6 M684 M684 M684 M684 M683
  M683 M683 M683 M686 M686 M686 2S-f4f7 M687 M687 M687 M68d M68d M68c M68c M68e M68e M688 M688
  M698 M698 M691 M691 M6a9 M6a9 M6a9 M6a9 M6af M6af M6af M6af M6b3 M6b3 M6b3 M6b3 M6b1 M6b1 M6b1
  M6b1 M6ba 2S-f4e5 M6bb M6bb M6bb M6c0 2S-f4e5 M6c1 M6c1 M6c1 M6be M6be M6be M6be M6d2 2S-f4dd
  M6d3 21V M6ad M6ad M6ad M6ad M6c7 M6c7 M6c6 M6c6 M6c8 M6c8 M6c7.674 M6cb M6cb M6c5 M6c5 M6c9
  M6c9 M6d0 M6d0 M6d0 M6d0 M649 M649 M626.627 M626.627 M626.6d5 M626.6d5 M626.648 M626.648
  M626.6c7 M626.6c7 M626.6c6 M626.6c6 M626.6c8 M626.6c8 M626.6d0 M626.6d0 M626.6d0 M626.649
  M626.649 M626.649 M6cc M6cc M6cc M6cc M626.62c M626.62d M626.645 M626.649 M626.64a M628.62c
  M628.62d M628.62e M628.645 M628.649 M628.64a M62a.62c M62a.62d M62a.62e M62a.645 M62a.649
  M62a.64a M62b.62c M62b.645 M62b.649 M62b.64a M62c.62d M62c.645 M62d.62c M62d.645 M62e.62c
  M62e.62d M62e.645 M633.62c M633.62d M633.62e M633.645 M635.62d M635.645 M636.62c M636.62d
  M636.62e M636.645 M637.62d M637.645 M638.645 M639.62c M639.645 M63a.62c M63a.645 M641.62c
  M641.62d M641.62e M641.645 M641.649 M641.64a M642.62d M642.645 M642.649 M642.64a M643.627
  M643.62c M643.62d M643.62e M643.644 M643.645 M643.649 M643.64a M644.62c M644.62d M644.62e
  M644.645 M644.649 M644.64a M645.62c M645.62d M645.62e M645.645 M645.649 M645.64a M646.62c
  M646.62d M646.62e M646.645 M646.649 M646.64a M647.62c M647.645 M647.649 M647.64a M64a.62c
  M64a.62d M64a.62e M64a.645 M64a.649 M64a.64a M630.670 M631.670 M649.670 M20.64c.651 M20.64d.651
  M20.64e.651 M20.64f.651 M20.650.651 M20.651.670 M626.631 M626.632 M626.645 M626.646 M626.649
  M626.64a M628.631 M628.632 M628.645 M628.646 M628.649 M628.64a M62a.631 M62a.632 M62a.645
  M62a.646 M62a.649 M62a.64a M62b.631 M62b.632 M62b.645 M62b.646 M62b.649 M62b.64a M641.649
  M641.64a M642.649 M642.64a M643.627 M643.644 M643.645 M643.649 M643.64a M644.645 M644.649
  M644.64a M645.627 M645.645 M646.631 M646.632 M646.645 M646.646 M646.649 M646.64a M649.670
  M64a.631 M64a.632 M64a.645 M64a.646 M64a.649 M64a.64a M626.62c M626.62d M626.62e M626.645
  M626.647 M628.62c M628.62d M628.62e M628.645 M628.647 M62a.62c M62a.62d M62a.62e M62a.645
  M62a.647 M62b.645 M62c.62d M62c.645 M62d.62c M62d.645 M62e.62c M62e.645 M633.62c M633.62d
  M633.62e M633.645 M635.62d M635.62e M635.645 M636.62c M636.62d M636.62e M636.645 M637.62d
  M638.645 M639.62c M639.645 M63a.62c M63a.645 M641.62c M641.62d M641.62e M641.645 M642.62d
  M642.645 M643.62c M643.62d M643.62e M643.644 M643.645 M644.62c M644.62d M644.62e M644.645
  M644.647 M645.62c M645.62d M645.62e M645.645 M646.62c M646.62d M646.62e M646.645 M646.647
  M647.62c M647.645 M647.670 M64a.62c M64a.62d M64a.62e M64a.645 M64a.647 M626.645 M626.647
  M628.645 M628.647 M62a.645 M62a.647 M62b.645 M62b.647 M633.645 M633.647 M634.645 M634.647
  M643.644 M643.645 M644.645 M646.645 M646.647 M64a.645 M64a.647 M640.64e.651 M640.64f.651
  M640.650.651 M637.649 M637.64a M639.649 M639.64a M63a.649 M63a.64a M633.649 M633.64a M634.649
  M634.64a M62d.649 M62d.64a M62c.649 M62c.64a M62e.649 M62e.64a M635.649 M635.64a M636.649
  M636.64a M634.62c M634.62d M634.62e M634.645 M634.631 M633.631 M635.631 M636.631 M637.649
  M637.64a M639.649 M639.64a M63a.649 M63a.64a M633.649 M633.64a M634.649 M634.64a M62d.649
  M62d.64a M62c.649 M62c.64a M62e.649 M62e.64a M635.649 M635.64a M636.649 M636.64a M634.62c
  M634.62d M634.62e M634.645 M634.631 M633.631 M635.631 M636.631 M634.62c M634.62d M634.62e
  M634.645 M633.647 M634.647 M637.645 M633.62c M633.62d M633.62e M634.62c M634.62d M634.62e
  M637.645 M638.645 M627.64b M627.64b 12V M62a.62c.645 M62a.62d.62c M62a.62d.62c M62a.62d.645
  M62a.62e.645 M62a.645.62c M62a.645.62d M62a.645.62e M62c.645.62d M62c.645.62d M62d.645.64a
  M62d.645.649 M633.62d.62c M633.62c.62d M633.62c.649 M633.645.62d M633.645.62d M633.645.62c
  M633.645.645 M633.645.645 M635.62d.62d M635.62d.62d M635.645.645 M634.62d.645 M634.62d.645
  M634.62c.64a M634.645.62e M634.645.62e M634.645.645 M634.645.645 M636.62d.649 M636.62e.645
  M636.62e.645 M637.645.62d M637.645.62d M637.645.645 M637.645.64a M639.62c.645 M639.645.645
  M639.645.645 M639.645.649 M63a.645.645 M63a.645.64a M63a.645.649 M641.62e.645 M641.62e.645
  M642.645.62d M642.645.645 M644.62d.645 M644.62d.64a M644.62d.649 M644.62c.62c M644.62c.62c
  M644.62e.645 M644.62e.645 M644.645.62d M644.645.62d M645.62d.62c M645.62d.645 M645.62d.64a
  M645.62c.62d M645.62c.645 M645.62e.62c M645.62e.645 2V M645.62c.62e M647.645.62c M647.645.645
  M646.62d.645 M646.62d.649 M646.62c.645 M646.62c.645 M646.62c.649 M646.645.64a M646.645.649
  M64a.645.645 M64a.645.645 M628.62e.64a M62a.62c.64a M62a.62c.649 M62a.62e.64a M62a.62e.649
  M62a.645.64a M62a.645.649 M62c.645.64a M62c.62d.649 M62c.645.649 M633.62e.649 M635.62d.64a
  M634.62d.64a M636.62d.64a M644.62c.64a M644.645.64a M64a.62d.64a M64a.62c.64a M64a.645.64a
  M645.645.64a M642.645.64a M646.62d.64a M642.645.62d M644.62d.645 M639.645.64a M643.645.64a
  M646.62c.62d M645.62e.64a M644.62c.645 M643.645.645 M644.62c.645 M646.62c.62d M62c.62d.64a
  M62d.62c.64a M645.62c.64a M641.645.64a M628.62d.64a M643.645.645 M639.62c.645 M635.645.645
  M633.62e.64a M646.62c.64a 8V 20X M635.644.6d2 M642.644.6d2 M627.644.644.647 M627.643.628.631
  M645.62d.645.62f M635.644.639.645 M631.633.648.644 M639.644.64a.647 M648.633.644.645
  M635.644.649 M635.644.649.20.627.644.644.647.20.639.644.64a.647.20.648.633.644.645
  M62c.644.20.62c.644.627.644.647 M631.6cc.627.644 3V 10I M2c M3001 1X 2S-fdd9 M21 M3f 2S-ce01 7X
  10V 1X M2014 M2013 M5f M5f 2S-fe0d M7b M7d 2S-ce25 2S-ce2b 2S-ce33 2S-ce37 4S-ce35 2V M5b M5d
  M20.305 M20.305 M20.305 M20.305 M5f M5f M5f M2c M3001 2X M3b M3a M3f M21 M2014 2S-fe31 M7b M7d
  2S-ce49 M23 M26 2S-fe37 M2d M3c M3e M3d 1X M5c 2S-fe45 M40 4X M20.64b M640.64b M20.64c 1V
  M20.64d 1X M20.64e M640.64e M20.64f M640.64f M20.650 M640.650 M20.651 M640.651 M20.652 M640.652
  2S-f85f 2S-f860 2S-f861 2S-f862 2S-f863 M626 M626 2S-f866 2S-f867 M628 M628 2S-f86a 2S-f86b M62a
  M62a 2S-f86e M62b M62b 2S-f871 M62c M62c 2S-f874 M62d M62d 2S-f877 M62e M62e 2S-f87a 2S-f87b
  2S-f87c 2S-f87d 2S-f87e M633 M633 2S-f881 M634 M634 2S-f884 M635 M635 2S-f887 M636 M636 2S-f88a
  M637 M637 2S-f88d M638 M638 2S-f890 M639 M639 2S-f893 M63a M63a M63a M641 M641 M641 2S-f893 M642
  M642 2S-f896 M643 M643 2S-f899 M644 M644 2S-f89c M645 M645 2S-f89f M646 M646 2S-f8a2 M647 M647
  2S-f8a5 2S-f8a6 2S-f8a7 M64a M64a M64a M644.622 M644.622 M644.623 M644.623 M644.625 M644.625
  M644.627 M644.627 2X 1I 1X 20S-fee0 1aS-fec0 24S-fee0 2S-d5da M2e 2S-cf56 M3001 M30fb M30f2
  M30a1 M30a3 M30a5 M30a7 M30a9 M30e3 M30e5 M30e7 M30c3 M30fc M30a2 M30a4 M30a6 M30a8 2S-cecb
  M30ad M30af M30b1 M30b3 M30b5 M30b7 M30b9 M30bb M30bd M30bf M30c1 M30c4 M30c6 M30c8 6S-cebb
  M30d2 M30d5 M30d8 M30db 5S-ceb1 M30e4 M30e6 6S-ceae M30ef M30f3 2S-cf05 1I 2S-eea1 M11aa M1102
  2S-edf9 3S-eea4 6S-edfa M111a 3S-eeab M1121 aS-eeac 3X 6S-ee61 2X 6S-ee63 2X 6S-ee65 2X 3S-ee67
  3X 2S-ff3e Mac M20.304 Ma6 Ma5 M20a9 1X M2502 4S-de59 M25a0 M25cb 11X cV 1X 1aV 1X 13V 1X 2V 1X
  fV 2X eV 22X 7bV 5X 3V 4X 2dV 3X 58V 1X dV 3X 1V 2fX 2eV 82X 1dV 3X 31V fX 1cV 4X 24V 9X 1eV 5X
  2bV 5X 1eV 1X 25V 4X eV 2aX 28S+28 76V 2X aV 6X 24S+28 4X 24V 4X 28V 8X 34V bX 1V bS+27 1X fS+27
  1X 7S+27 1X 2S+27 1X bV 1X fV 1X 7V 1X 2V 3X 34V cX 137V 9X 16V aX 8V 18X 1V 2S-104b1 Me6 M299
  M253 1X M2a3 Mab66 M2a5 M2a4 2S-10535 M1d91 M258 M25e M2a9 M264 M262 M260 M29b M127 M29c M267
  M284 2S-104ef M26c M1df04 Ma78e M26e M1df05 M28e M1df06 Mf8 2S-1052d M71 M27a M1df08 2S-1052b
  M280 M2a8 M2a6 Mab67 M2a7 M288 M2c71 1X M28f 2S-10512 M298 3S-105f6 M1df0a M1df1e 45X 6V 2X 1V
  1X 2cV 1X 2V 3X 1V 2X 17V 1X 48V 8X 9V 30X 13V 1X 2V 5X 21V 3X 1bV 5X 1bV 26X 38V 4X 14V 2X 32V
  1X 2V 5X 8V 1X 3V 1X 1dV 2X 3V 4X aV 7X 9V 7X 40V 20X 27V 4X cV 9X 36V 3X 1dV 2X 1bV 5X 1aV 7X
  4V cX 7V 50X 49V 37X 33S+40 dX 33V 7X 2eV 8X aV 6X 10V 16S+20 3X 1dV 8X 2V d0X 1fV 1X 2aV 1X 3V
  2X 2V 10X 6V 8X 9V 21X 2eV 8X 2aV 16X 1aV 26X 1cV 14X 17V 9X 4eV 4X 24V 9X 3eV 1X 5V dX 19V 7X
  aV 6X 35V 1X 12V 8X 27V 9X 60V 1X 14V bX 12V 1X 2fV 3eX 7V 1X 1V 1X 4V 1X fV 1X bV 6X 3bV 5X aV
  6X 4V 1X 8V 2X 2V 2X 16V 1X 7V 1X 2V 1X 5V 1X aV 2X 2V 2X 3V 2X 1V 6X 1V 5X 7V 2X 7V 3X 5V bX aV
  1X 1V 2X 1V 1X 26V 1X aV 1X 1V 2X 1V 1X 4V 1X aV 1X 2V 8X 2V 1dX 5cV 1X 5V 1eX 48V 8X aV a6X 36V
  2X 26V 22X 45V bX aV 6X dV 13X 3aV 6X aV 6X 14V 1cX 1bV 2X fV 4X 17V b9X 3cV 64X 20S+20 33V cX
  8V 2X 1V 2X 8V 1X 2V 1X 1eV 1X 2V 2X cV 9X aV 46X 8V 2X 2eV 2X bV 1bX 48V 8X 53V dX 49V 7X aV
  56X 8V 58X 22V eX aV 6X 9V 1X 2dV 1X eV aX 1dV 3X 20V 2X 16V 1X eV 49X 7V 1X 2V 1X 2cV 3X 1V 1X
  2V 1X 9V 8X aV 6X 6V 1X 2V 1X 25V 1X 2V 1X 6V 7X aV 6X 2cV 4X aV f6X 19V 7X 11V 1X 29V 3X 1dV
  55X 1V fX 32V dX 39bV 66X 6fV 1X 5V bX c4V a4cX 63V dX 430V 10X 16V aX f9bV 5X 247V 1ab9X 3aV
  6c6X 239V 7X 1fV 1X aV 4X 51V 1X aV 6X 1eV 2X 6V aX 46V aX aV 1X 7V 1X 15V 5X 13V 1b0X 3aV c6X
  20S+20 3bV 5X 19S+1b 2X 19V 2cX 4bV 4X 39V 7X 11V 40X 5V bX 7V 9X 1cd6V 29X 20V 61X 73V 21fdX 4V
  1X 7V 1X 2V 1X 123V fX 1V 1dX 3V 2X 1V eX 4V 8X 18cV 904X 6bV 5X dV 3X 9V 7X aV 2X 4V 4I f5cX
  d6V 1aS-1cc75 aS-1ccc0 3V 3X 1b4V 6X 17V fX 11V fX 2eV 2X 17V 9X 74V 3cX f6V aX 27V 2X 35V
  M1d157.1d165 M1d158.1d165 M1d158.1d165.1d16e M1d158.1d165.1d16f M1d158.1d165.1d170
  M1d158.1d165.1d171 M1d158.1d165.1d172 eV 8I 40V M1d1b9.1d165 M1d1ba.1d165 M1d1b9.1d165.1d16e
  M1d1ba.1d165.1d16e M1d1b9.1d165.1d16f M1d1ba.1d165.1d16f 2aV 15X 46V 7aX 14V cX 14V cX 57V 9X
  19V 87X 1aS-1d39f 1aS-1d3b9 1aS-1d3d3 7S-1d3ed 1X 12S-1d3ed 1aS-1d407 1aS-1d421 M61 1X 2S-1d43b
  2X M67 2X 2S-1d43b 2X 4S-1d43b 1X 8S-1d43b 4S-1d455 1X M66 1X 7S-1d455 1X bS-1d455 1aS-1d46f
  1aS-1d489 2S-1d4a3 1X 4S-1d4a3 2X 8S-1d4a3 1X 7S-1d4a3 1X 1aS-1d4bd 2S-1d4d7 1X 4S-1d4d7 1X
  5S-1d4d7 1X M6f 3X 7S-1d4d7 1X 1aS-1d4f1 1aS-1d50b 1aS-1d525 1aS-1d53f 1aS-1d559 1aS-1d573
  1aS-1d58d 1aS-1d5a7 1aS-1d5c1 1aS-1d5db 1aS-1d5f5 1aS-1d60f 1aS-1d629 M131 M237 2X 11S-1d2f7
  M3b8 7S-1d2f7 M2207 11S-1d311 M3c3 7S-1d311 M2202 M3b5 M3b8 M3ba M3c6 M3c1 M3c0 11S-1d331 M3b8
  7S-1d331 M2207 11S-1d34b M3c3 7S-1d34b M2202 M3b5 M3b8 M3ba M3c6 M3c1 M3c0 11S-1d36b M3b8
  7S-1d36b M2207 11S-1d385 M3c3 7S-1d385 M2202 M3b5 M3b8 M3ba M3c6 M3c1 M3c0 11S-1d3a5 M3b8
  7S-1d3a5 M2207 11S-1d3bf M3c3 7S-1d3bf M2202 M3b5 M3b8 M3ba M3c6 M3c1 M3c0 11S-1d3df M3b8
  7S-1d3df M2207 11S-1d3f9 M3c3 7S-1d3f9 M2202 M3b5 M3b8 M3ba M3c6 M3c1 M3c0 M3dd M3dd 2X aS-1d79e
  aS-1d7a8 aS-1d7b2 aS-1d7bc aS-1d7c6 28cV fX 5V 1X fV 450X 1fV 6X 6V d5X 7V 1X 11V 2X 7V 1X 2V 1X
  5V 5X 9S-1dc00 3S-1dbff bS-1dbfe M44b 2S-1dbfb Ma689 M4d9 M456 M458 M4e9 M4af M4cf 9S-1dc21
  2S-1dc20 2S-1dc1e M441 6S-1dc1c 2S-1dc1b M491 M456 M455 M45f M4ab Ma651 M4b1 21X 1V 70X 2dV 3X
  eV 2X aV 4X 2V 140X 1fV 11X 3aV 5X 1V 1d0X 2aV d6X 2bV 4X 1V c0X 1fV 1X 16V 8X 2V e0X 7V 1X 4V
  1X 2V 1X fV 1X c5V 2X 10V 29X 22S+22 2aV 4X aV 4X 2V 311X 44V 4cX 3dV c2X 2S-1e7d9 M62c M62f 1X
  M648 M632 M62d M637 M64a 4S-1e7c7 M633 M639 M641 M635 M642 M631 M634 2S-1e7eb M62e M630 M636
  M638 M63a M66e M6ba M6a1 M66f 1X M628 M62c 1X M647 2X M62d 1X M64a 4S-1e7e7 M633 M639 M641 M635
  M642 1X M634 2S-1e80b M62e 1X M636 1X M63a 6X M62c 4X M62d 1X M64a 1X M644 1X M646 M633 M639 1X
  M635 M642 1X M634 2X M62e 1X M636 1X M63a 1X M6ba 1X M66f 1X M628 M62c 1X M647 2X M62d M637 M64a
  M643 1X 2S-1e827 M633 M639 M641 M635 M642 1X M634 2S-1e84b M62e 1X M636 M638 M63a M66e 1X M6a1
  1X 2S-1e859 M62c M62f 2S-1e83d M632 M62d M637 M64a 1X 3S-1e847 M633 M639 M641 M635 M642 M631
  M634 2S-1e86b M62e M630 M636 M638 M63a 5X M628 M62c M62f 1X M648 M632 M62d M637 M64a 1X 3S-1e867
  M633 M639 M641 M635 M642 M631 M634 2S-1e88b M62e M630 M636 M638 M63a 34X 2V 10eX 2cV 4X 64V cX
  fV 2X fV 1X fV 1X 25V bX M30.2c M31.2c M32.2c M33.2c M34.2c M35.2c M36.2c M37.2c M38.2c M39.2c
  5V M28.61.29 M28.62.29 M28.63.29 M28.64.29 M28.65.29 M28.66.29 M28.67.29 M28.68.29 M28.69.29
  M28.6a.29 M28.6b.29 M28.6c.29 M28.6d.29 M28.6e.29 M28.6f.29 M28.70.29 M28.71.29 M28.72.29
  M28.73.29 M28.74.29 M28.75.29 M28.76.29 M28.77.29 M28.78.29 M28.79.29 M28.7a.29 M3014.73.3015
  M63 M72 M63.64 M77.7a 1V 1aS-1f0cf M68.76 M6d.76 M73.64 M73.73 M70.70.76 M77.63 1aV M6d.63
  M6d.64 M6d.72 23V M64.6a 1dV 38X 1aV M307b.304b M30b3.30b3 M30b5 dX M624b M5b57 M53cc M30c7
  M4e8c M591a M89e3 M5929 M4ea4 M6620 M7121 M6599 M524d M5f8c M518d M65b0 M521d M7d42 M751f M8ca9
  M58f0 M5439 M6f14 M6295 M6355 M4e00 M4e09 M904a M5de6 M4e2d M53f3 M6307 M8d70 M6253 M7981 M7a7a
  M5408 M6e80 M6709 M6708 M7533 M5272 M55b6 M914d 4X M3014.672c.3015 M3014.4e09.3015
  M3014.4e8c.3015 M3014.5b89.3015 M3014.70b9.3015 M3014.6253.3015 M3014.76d7.3015 M3014.52dd.3015
  M3014.6557.3015 7X M5f97 M53ef eX 6V 9aX 3d9V 3X 11V 3X dV 3X daV 6X cV 4X 1V fX cV 4X 38V 8X aV
  6X 28V 8X 1eV 2X cV 4X 2V eX 9V 27X 158V 8X eV 2X dV 3X bV 3X 39V 1X 1V 4X 10V 2X cV 4X aV 7X
  93V 1X 5cV aS-1fbc0 1V 405X a6e0V 20X 111eV 2X 168eV 2X 1d31V fX 26eV 9a2X M4e3d M4e38 M4e41
  M20122 M4f60 M4fae M4fbb M5002 M507a M5099 M50e7 M50cf M349e M2063a M514d M5154 M5164 M5177
  M2051c M34b9 M5167 M518d M2054b M5197 M51a4 M4ecc M51ac M51b5 M291df M51f5 M5203 M34df M523b
  M5246 M5272 M5277 M3515 M52c7 M52c9 M52e4 M52fa 2S-2a524 M5317 M5349 M5351 M535a M5373 M537d
  M537f M537f M537f M20a2c M7070 M53ca M53df M20b63 M53eb M53f1 M5406 M549e M5438 M5448 M5468
  M54a2 M54f6 M5510 M5553 M5563 M5584 M5584 M5599 M55ab M55b3 M55c2 M5716 M5606 M5717 M5651 M5674
  M5207 M58ee M57ce M57f4 M580d M578b M5832 M5831 M58ac M214e4 M58f2 M58f7 M5906 M591a M5922 M5962
  M216a8 M216ea M59ec M5a1b M5a27 M59d8 M5a66 M36ee M36fc M5b08 M5b3e M5b3e M219c8 M5bc3 M5bd8
  M5be7 M5bf3 M21b18 M5bff M5c06 M5f53 M5c22 M3781 M5c60 M5c6e M5cc0 M5c8d M21de4 M5d43 M21de6
  M5d6e M5d6b M5d7c 2S-29aa0 M382f M5dfd M5e28 M5e3d M5e69 M3862 M22183 M387c M5eb0 M5eb3 M5eb6
  M5eca M2a392 M5efe M22331 M22331 M8201 M5f22 M5f22 M38c7 M232b8 M261da M5f62 M5f6b M38e3 M5f9a
  M5fcd M5fd7 M5ff9 M6081 M393a M391c M6094 M226d4 M60c7 M6148 M614c M614e M614c M617a M618e M61b2
  M61a4 M61af M61de M61f2 M61f6 M6210 M621b M625d M62b1 M62d4 M6350 M22b0c M633d M62fc M6368 M6383
  M63e4 M22bf1 M6422 M63c5 M63a9 M3a2e M6469 M647e M649d M6477 M3a6c M654f M656c M2300a M65e3
  M66f8 M6649 M3b19 M6691 M3b08 M3ae4 M5192 M5195 M6700 M669c M80ad M43d9 M6717 M671b M6721 M675e
  M6753 M233c3 M3b49 M67fa M6785 M6852 M6885 M2346d M688e M681f M6914 M3b9d M6942 M69a3 M69ea
  M6aa8 M236a3 M6adb M3c18 M6b21 M238a7 M6b54 M3c4e M6b72 M6b9f 2S-28d3b M23a8d M21d0b M23afa
  M6c4e M23cbc M6cbf M6ccd M6c67 M6d16 M6d3e M6d77 M6d41 M6d69 M6d78 M6d85 M23d1e M6d34 M6e2f
  M6e6e M3d33 M6ecb M6ec7 M23ed1 M6df9 M6f6e M23f5e M23f8e M6fc6 M7039 M701e M701b M3d96 M704a
  M707d M7077 M70ad M20525 M7145 M24263 M719c M243ab M7228 M7235 M7250 M24608 M7280 M7295 M24735
  M24814 M737a M738b M3eac M73a5 M3eb8 M3eb8 M7447 M745c M7471 M7485 M74ca M3f1b M7524 M24c36
  M753e M24c92 M7570 M2219f M7610 M24fa1 M24fb8 M25044 M3ffc M4008 M76f4 M250f3 M250f2 M25119
  M25133 2S-28227 M771f M774a M4039 M778b M4046 M4096 M2541d M784e M788c M78cc M40e3 M25626 M7956
  M2569a M256c5 M798f M79eb M412f M7a40 M7a4a M7a4f M2597c M25aa7 M25aa7 M7aee M4202 M25bab M7bc6
  M7bc9 M4227 M25c80 M7cd2 M42a0 M7ce8 M7ce3 M7d00 M25f86 M7d63 M4301 M7dc7 M7e02 M7e45 M4334
  M26228 M26247 M4359 M262d9 M7f7a M2633e M7f95 M7ffa M8005 M264da M26523 M8060 M265a8 M8070
  M2335f M43d5 M80b2 M8103 M440b M813e M5ab5 M267a7 M267b5 M23393 M2339c M8201 M8204 M8f9e M446b
  M8291 M828b M829d M52b3 M82b1 M82b3 M82bd M82e6 M26b3c M82e5 M831d M8363 M83ad M8323 M83bd M83e7
  M8457 M8353 M83ca M83cc M83dc M26c36 M26d6b M26cd5 M452b M84f1 M84f3 M8516 M273ca M8564 M26f2c
  M455d M4561 M26fb1 M270d2 M456b M8650 M865c M8667 M8669 M86a9 M8688 M870e M86e2 M8779 M8728
  M876b M8786 M45d7 M87e1 M8801 M45f9 M8860 M8863 M27667 M88d7 M88de M4635 M88fa M34bb M278ae
  M27966 M46be M46c7 M8aa0 M8aed M8b8a M8c55 M27ca8 M8cab M8cc1 M8d1b M8d77 M27f2f M20804 M8dcb
  M8dbc M8df0 M208de M8ed4 M8f38 M285d2 M285ed M9094 M90f1 M9111 M2872e M911b M9238 2S-26711 M927c
  M93f9 M9415 M28bfa M958b M4995 M95b7 M28d77 M49e6 M96c3 M5db2 M9723 M29145 M2921a M4a6e M4a76
  M97e0 M2940a M4ab2 M29496 M980b M980b M9829 M295b6 M98e2 M4b33 M9929 M99a7 M99c2 M99fe M4bce
  M29b30 M9b12 M9c40 M9cfd M4cce M4ced M9d67 M2a0ce M4cf8 M2a105 M2a20e M2a291 M9ebb M4d56 M9ef9
  M9efe M9f05 M9f0f M9f16 M9f3b M2a600 5e2X 134bV 5X 212aV acc86X f0I 2fe10X"

/-- What a character of a run with this rule becomes, `position` characters into the run. -/
def Rule.apply (rule : Rule) (position : Nat) (c : Char) : Option (List Char) :=
  match rule with
  | .kept => some [c]
  | .refused => none
  | .dropped => some []
  | .shifted distance => some [Char.ofNat (c.toNat + distance).toNat]
  | .paired => some [if position % 2 = 0 then Char.ofNat (c.toNat + 1) else c]
  | .replaced cs => some cs

/-- What a character becomes; none if no host may hold it.  ASCII letters become small. -/
def character (c : Char) : Option (List Char) :=
  if c.toNat < 0x80 then some [c.toLower]
  else
    match runs.find? c.toNat with
    | some (rule, position) => rule.apply position c
    | none => none

/-- What a text becomes. -/
def text : List Char → Option (List Char)
  | [] => some []
  | c :: rest => do return (← character c) ++ (← text rest)

example : text "RPC".toList = some "rpc".toList := by decide

end TxRelay.Url.HostMapping
