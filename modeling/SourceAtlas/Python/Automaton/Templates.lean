/-! Rows of the automaton that others are much like. -/
namespace SourceAtlas.Python.Automaton

def templates : Array Nat := #[
  0xf3c3609cc351a3434278c331070320f9c311c303009c82f19e82e19e42d0c00381ce82c292c2b1a502a25dc290108283df8261ca037000c010cd02528e02412e8233bc0221720210df82023201f17181e0df01d60381c0a481b16781a5a40195a38186040171658166030151ae81422881316f8120ab0111ae01057100f57080e57000d12e00c16680b13980a1700090a98082318070de8064230054ad8041b10034c31,
  0xf3c3609cc351a3434278c331070320f9c311c303009c82f19e82e19e42d292c2b1a502a2370290bb0493df8260840481f6047000c010cd02528e02412e8233bc0221720210df82023201f0df01d0a481b16781a5a40195a38181b784657100f57080e57000d12e00c16680b13980a1700090a98082318070de8064230054ad8041b10033c51,
  0x10603615f041106c311e443015202f281075280c7a2b702b1b3c2a3f2026000c010db82533e0243c40221a98210eb02026381f11301d30f01b1a003e30e83b1a680731406a11380630f8032073,
  0x12083628148616e0411220311d583016d42f2ba42b1c0c2a3f3026000c010da82535c0243c48221aa0210ec82026481f33406f11d81d34001b13a88533f83b2630071160063408032081,
  0xf3c3609cc351a3434278c331070320f9c311c303009c82f19e82e19e42d292c2b1a502a27b8293df8261d1047000c010cd02528e02412e8233bc0221720210df82023201f0df01d0a481b16781a5a40195a38181b784657100f57080e57000d12e00c16680b13980a1700090a98082318070de8064230054ad8041b10033a41,
  0xfc83614b0410fc431214430141c2f2a642b1b102a3ed026000c010d20253160243c20221a38210e502025e81f10881d2ca01b2c983b25c0071080062ca8031c21,
  0xf3c3609cc351a3434278c331070320f9c311c303009c82f19e82e19e42d1ce82c292c2b1a502a25dc290104283df8261d3037000c010cd02528e02412e8233bc0221720210df82023201f17181e0df01d60381c0a481b16781a5a40195a38186040171658166030151ae81422881316f8120ab0111ae01057100f57080e57000d12e00c16680b13980a1700090a98082318070de8064230054ad8041b10034c31,
  0xfc83614b0410fc4311fec30141c2f27f4832a642b1b102a3ed026000c010d20253160243c20221a38213110710e502025e81f10881d2ca01b17403e2c983b25c0071080062ca8032063,
  0x1d7c36251126208d252519242089233f2026000c0145e12238e02049192159a12037c01d59991f4e606a37b8064148031673,
  0xf3c361070410f48311a603010d82f292c2b1a502a3df826000c010ce82528e0243bc0221720210df82023201f10c01d27501b27483b25e00710b8062758031c21,
  0xf3c361fa0431fe0420a10351a3434278c331070320f9c311aa4300a0c2f19e82e19e42d292c2b1a502a2370290c14493df82608b048202847000c010cd82528e02412e8233bc0221720210df82023201f0ee81d0a501b16b01a5a40195a38185a983e1b884657100f57080e57000d12e00c16680b13980a1700090aa0082388070ed0064230054ad8041b08033e53,
  0x10603615f041106c311b443015202f2b702b1b3c2a3f2026000c010d382533e0243c40221a98210eb02026381f11301d2d981b2d903b26100710f0062da0031c21,
  0x1c6c3622052a2835292469281e5d233ed026000c0142c1224e507138b82050d12158492037781d59d91f3770063f58031663,
  0xfd8362a786e1518351510320fd4311ae43015142f28982e24982d29506c2494702ab02b1cc02a3ef026000c010d70253220241310233c28221a60210e682026001f3ae86f0e601d2c901b2c883b19f8070e38062d08032081,
  0xfc83614b041113831141c2f3ed026000c010d78250e502025e81f10881d31781b31703b25c007002887108006001c5131604e1a75,
  0xf90361334410f8c311bf03013cc2f2b3c2b1be82a3f1026000c010d10252e68243c38221a88210e982026281f12081d2c201b2c183b25f80711d0062c28031c21,
  0xfb8362a6c6e14303525e06d1428320fb4311ab030142c2f28642e237c2d29386c23786b2a042b1c782a3ec026000c010d58253050241308233c102219f0210e302025c81f0e281d2c501b2c483b1728073ae06a0e00062c78032071,
  0x12083626008616e0411220311cf83016d42f2ba42b1c0c2a3f3026000c010da82535c0243c48221aa0210ec82026481f11d81d34001b13a88533f83b2630071160063408031e21,
  0xfc8361fa04327604214b0410fc4311ba430141c2f2a642b1b102a3ed026000c010d20253160243c20221a38210e502025e81f10881d2ca01b5a983e2c983b2328071080062c58031e23,
  0x12083616e0411220311c143016d42f2ba42b1c0c2a3f3026000c010da82535c0243c48221aa0210ec82026481f11d81d34001b33f83b2630071160063408031c21,
  0xf803612ac410f7c311bd030128c2f2afc2b1bc42a3f0026000c010d28252d58243c30221a78210e802026181f10f81d2a581b2a503b2650071200062a60031c21,
  0xfc83616883514b03219c431141c2f3ed026000c010d40253160240e502025e81f10881d33b01b33a83b25c0071080063510031821,
  0x12083620ac4320044216e0411220311bbc3016d42f2ba42b1c0c2a3f3026000c010da82535c0243c48221aa0210ec82026481f46106f11d81d34001b5ce03e33f83b25f0071160062d20032083,
  0xfb8361428410fb4311c803015ac2f2a042b1c782a3ec026000c010d80253050243c102219f0210e302025c81f11681d2d481b2d403b2620071128062d50031c21,
  0xfd8361510410fd4311cd03015dc2f2ab02b1cc02a3ef026000c010d90253220243c28221a60210e682026001f11a01d2e801b2e783b2640071198062e88031c21,
  0xfc836196c3529443414b03219bc3119682f19e82e23882d3ed026000c0114d8253160240e502025e81f0e481d3aa01b3a983b25c0070e20063ad8031821,
  0x1da036253d2620cd2525412420c9233f3026000c0146592239082049992159c12048a06f38081d59b91f3800064168031683,
  0xf80362b146e1dcc7312ac410f7c311a8430128c2f2684722524702afc2b1bc42a3f0026000c010d28252d58240ff8233c30221a78212dc0710e802026181f10f81d2a581b17403e2a503b1a40075e203a1090062a60032463,
  0xfd8362b0c6e1510410fd4311aec3015dc2f2494702ab02b1cc02a3ef026000c010d90253220241310233c28221a60210e682026001f2d386f11a01d2e801b2e783b19f8071100062e88032081,
  0xfb8362b746e26e06d1428410fb4311ad03015ac2f23786b2a042b1c782a3ec026000c010d80253050241308233c102219f0210e302025c81f11681d2d481b2d403b17280732806a10c8062d50032071,
  0xfc83614b0410fc4311e1c30141c2f2a642b1b102a3ed026000c010d20253160243c20221a38210e502025e81f10881d2ca01b5000852c983b25c0071080062ca8031e21,
  0xf3c361070410f48311d3c3010d82f292c2b1a502a3df826000c010ce82528e0243bc0221720210df82023201f10c01d27501b27483b25e00710b8060070822758031e41]

/-- A template with a number of fields changed. A change is 32 bits: the place of the field, with the mode and the
expected tokens at place 0, and which of its bits are others. -/
def alter (template : Nat) : (count changes : Nat) → Nat
  | 0, _ => templates.getD template 0
  | count + 1, changes =>
    (alter template count (changes / 0x100000000)).xor
      ((changes / 256 % 0x1000000).shiftLeft (24 * (changes % 256) - 8))

end SourceAtlas.Python.Automaton
