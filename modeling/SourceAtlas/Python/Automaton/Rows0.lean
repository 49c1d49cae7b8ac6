import SourceAtlas.Python.Automaton.Templates

/-! States 0 to 799 of the automaton, one number for each. -/
namespace SourceAtlas.Python.Automaton

def rows0 : Array Nat := #[
  0xc010008000410,
  0xf3c3609cc351a3434278c331070320f9c311c303009c82f19e82e19e42d1c342c292c2b1a502a23702900f8282928273df826000c010cd02528e02412e8233bc0221720210df82023201f17181e0df01d5a481c0a481b16781a5a40195a38185a301714c8165a28151710141eb8131670120aa81117081057100f57080e57000d12e00c16680b13980a1700090a98082318070de8064230054ad8041b10030010024c21,
  alter 0 3 0x105c002c000800274cb80025, alter 0 1 0x594002c, alter 0 1 0x6f4002c,
  alter 0 1 0x7ac002c, alter 0 1 0x7b4002c, alter 0 1 0x7d0002c, alter 0 1 0x7e8002c,
  alter 0 1 0x7f0002c, alter 0 1 0x7f8002c, alter 0 0 0x0, alter 0 1 0x708002c,
  alter 0 3 0x62c002c0004002701800025, alter 0 1 0xc002c, alter 0 1 0x18002c, alter 0 1 0x1c002c,
  alter 0 1 0x74c002c, alter 0 1 0x710002c, alter 0 1 0x28002c, alter 0 3 0x638002c0004002701800025,
  alter 0 3 0x63c002c0018002701e80025, alter 0 1 0x30002c, alter 0 1 0x714002c,
  alter 0 3 0x243c002c0010002745200025, alter 0 1 0x3c002c, alter 0 1 0x44002c,
  alter 0 3 0x2444002c0010002745200025, alter 0 3 0x244c002c0010002745200025, alter 0 1 0x48002c,
  alter 0 3 0x648002c0004002701800025, alter 0 3 0x64c002c0018002701e80025,
  alter 0 3 0x2454002c0010002745200025, alter 0 3 0x2458002c0010002745200025,
  alter 0 3 0x2460002c0010002745200025, alter 0 3 0x5ac002c001c002701d00025,
  alter 0 3 0x720002c001c002701d00025, alter 0 3 0x94002c001c002701d00025,
  alter 0 3 0x9c002c001c002701d00025, alter 0 3 0xb8002c001c002701d00025,
  alter 0 3 0xd0002c001c002701d00025, alter 0 3 0xd8002c001c002701d00025,
  alter 0 3 0xe0002c001c002701d00025, alter 0 3 0xe8002c001c002701d00025,
  alter 0 3 0x734002c001c002701d00025, alter 0 3 0x65c002c0014002701380025,
  alter 0 3 0xf4002c001c002701d00025, alter 0 3 0x100002c001c002701d00025,
  alter 0 3 0x104002c001c002701d00025, alter 0 3 0x754002c001c002701d00025,
  alter 0 3 0x73c002c001c002701d00025, alter 0 3 0x110002c001c002701d00025,
  alter 0 3 0x668002c0014002701380025, alter 0 3 0x66c002c0028002701600025,
  alter 0 3 0x118002c001c002701d00025, alter 0 3 0x740002c001c002701d00025,
  alter 0 3 0x124002c001c002701d00025, alter 0 3 0x12c002c001c002701d00025,
  alter 0 3 0x130002c001c002701d00025, alter 0 3 0x678002c0014002701380025,
  alter 0 3 0x67c002c0028002701600025, alter 0 3 0x10f4002c000800274cb80025,
  0xf3c3609cc351a3434278c331070320f9c311c303009c82f19e82e19e42d1c342c292c2b1a502a23702900fc283df826000c010cd02528e02412e8233bc0221720210df82023201f17181e0df01d5a481c0a481b16781a5a40195a38185a301714c8165a28151710141eb8131670120aa81117081057100f57080e57000d12e00c16680b13980a1700090a98082318070de8064230054ad8041b10030014024c21,
  0xf3c3609cc351a3434278c331070320f9c311c303009c82f19e82e19e42d1c342c292c2b1a502a23702900fc28808c26000c01808825808424808023807c2280782180742080701f806c1e80681d80641c80601b805c1a805819805418805017804c16804815804414804013803c1280381180341080300f802c0e80280d80240c80200b801c0a801809801408801007800c068008058004048000030018024c21,
  alter 6 1 0x4da00025,
  alter 6 37 0xbd7400261d2800258c580023a864002292680021bbbc00209758001f8d8c001ea350001d9774001c8d98001be088001a8a28001996240018da180017da6c0016e0ec001596f00014e09400139a480012a2140011966000108a24000f9a70000ed720000dd724000cd728000b92c4000a9648000993840008971800078a8c0006a30800058de40004c2380003cadc00029b100001,
  alter 6 1 0x1980025, alter 6 0 0x0, alter 6 1 0x680025, alter 6 1 0xb00025, alter 6 1 0x44a00025,
  alter 6 1 0x980025, alter 6 1 0xe00025,
  0xfc8361fa04321884214b0410fc4311ba430141c2f2a642b1b102a3ed026000c010d20253160243c202225e84080cc210e502080c83f80c41d2ca01b80c03e00203d00243c2c983b80bc0780b83a80b406001c392c58032842,
  0xfc8361fa04321884214b0410fc4311ba430141c2f2a642b1b102a3ed026000c010d20253160243c202225e84080cc210e502080c83f80c41d0020452ca01b80c03e00243c2c983b80bc0780b84480b406001c392c58032842,
  alter 10 0 0x0, alter 10 3 0x3000200078001e0060001d, alter 10 3 0x2000200060001e0040001d,
  alter 10 3 0x5400200058001e00a8001d, alter 10 4 0x6ac002100e800200100001e01d0001d,
  alter 10 4 0x6ac0021011800200170001e0230001d, alter 10 4 0x6ac0021010800200178001e0210001d,
  alter 10 4 0x6ac0021013c00200160001e0278001d,
  0xf3c361070410f48311c383010d82f292c2b1a502a21784c3df826000c010ce82528e0243bc02223204080e0210df82080dc3f80d81d27501b00203d00243c17304b27483b80d40780b83a80d006001c4a2758032842,
  0xf3c361070410f48311c383010d82f292c2b1a502a21784c3df826000c010ce82528e0243bc02223204080e0210df82080dc3f80d81d00204527501b00243c17304b27483b80d40780b84480d006001c4a2758032842,
  0xfc83614b0410fc4311d2030141c2f2a642b1b102a3ed026000c010d20253160243c20221a38210e502025e81f10881d2ca01b00203d00243c2c983b25c00780b83a108006001c4d2ca8032442,
  0xfc83614b0410fc4311ddc30141c2f2a642b1b102a3ed026000c010d20253160243c20221a38210e502025e81f10881d2ca01b00203d00243c2c983b25c00780b83a108006001c4d2ca8032442,
  alter 1 4 0x61c002017fc001f0050001d5ff8001c, alter 1 3 0x23c001f0058001d0478001c,
  alter 1 3 0x15c001f0060001d02b8001c, alter 1 3 0x34001f0068001d0068001c,
  alter 1 3 0x38001f0070001d0070001c, alter 1 3 0x2c001f0078001d0058001c, alter 1 0 0x0,
  alter 1 3 0x8001f0008001d0010001c, alter 1 3 0xc001f0010001d0018001c,
  alter 1 3 0x64001f0018001d00c8001c, alter 1 3 0x14c001f0020001d0298001c,
  alter 1 4 0x54000200198001f0028001d0330001c, alter 1 3 0x6c001f0030001d00d8001c,
  alter 1 3 0x5c001f0038001d00b8001c, alter 1 3 0x44001f00c0001d0088001c,
  alter 1 3 0xf8001f00c8001d01f0001c, alter 1 3 0xb4001f00d0001d0168001c,
  alter 1 3 0x7b4001f00d8001d3f68001c, alter 1 4 0x54000200180001f00e0001d0300001c,
  alter 1 4 0x50c00200184001f00e8001d0308001c, alter 1 3 0xbc001f00f8001d0178001c,
  alter 1 4 0x5dc00202380001f0080001d4700001c, alter 1 4 0x5dc00202388001f0098001d4710001c,
  alter 1 4 0x5dc002023f0001f00a0001d47e0001c, alter 1 4 0x540002001f0001f00b0001d03e0001c,
  alter 1 4 0x5dc002023f8001f0140001d47f0001c, alter 1 4 0x5dc002023e0001f0148001d47c0001c,
  alter 1 4 0x5dc002023ec001f0150001d47d8001c, alter 1 4 0x6ac00200214001f0158001d0428001c,
  alter 1 4 0x6ac002000a8001f0160001d0150001c, alter 1 4 0x6ac002007dc001f0168001d3fb8001c,
  alter 1 4 0x6ac002007c0001f0170001d3f80001c, alter 1 4 0x6ac00200734001f0178001d3e68001c,
  alter 1 4 0x6ac00200728001f0100001d3e50001c, alter 1 4 0x6ac00200710001f0108001d3e20001c,
  alter 1 4 0x6ac00200714001f0110001d3e28001c, alter 1 4 0x6ac0020070c001f0118001d3e18001c,
  alter 1 4 0x6ac00200098001f0120001d0130001c, alter 1 4 0x5ac002001e8001f0128001d03d0001c,
  alter 1 4 0x6ac00200774001f0130001d3ee8001c, alter 1 4 0x6ac00200764001f0138001d3ec8001c,
  alter 1 4 0x6ac0020076c001f01c0001d3ed8001c, alter 1 4 0x6ac002000e0001f01c8001d01c0001c,
  alter 1 4 0x6ac00200080001f01d0001d0100001c, alter 1 4 0x6ac0020075c001f01d8001d3eb8001c,
  alter 1 4 0x5ac002001d0001f01e0001d03a0001c, alter 1 4 0x47c002001d4001f01e8001d03a8001c,
  alter 1 4 0x6ac00200088001f01f8001d0110001c, alter 1 4 0x5ac002001c0001f0198001d0380001c,
  alter 1 4 0x61c0020175c001f01a8001d5eb8001c, alter 4 1 0x150001c, alter 4 1 0x158001c,
  alter 4 1 0x4c80001c, alter 4 1 0x4cc8001c, alter 4 0 0x0, alter 4 1 0x38001c, alter 4 1 0x50001c,
  alter 4 1 0x40001c, alter 4 1 0x78001c, alter 4 1 0x68001c, alter 4 1 0x4468001c,
  alter 4 1 0x4498001c, alter 4 1 0x80001c, alter 4 1 0xb0001c, alter 4 1 0xa8001c,
  alter 4 1 0xd8001c,
  0xf3c3609cc351a3434278c331070320f9c311c303009c82f19e82e19e42d292c2b1a502a27b8293df826000c010cd02528e02412e8233bc0221720210df82023201f0df01d0a481b16781a5a40195a38181b784657100f57080e57000d12e00c16680b13980a1700090a98082318070de8064230054ad8041b10033821,
  0xf3c361070410f503110d82f3df826000c010cf0250df82023201f10c01d28f01b00203d00243c28e83b25e00780b83a10b806001c4f28e04e1e42,
  0xf3c361070410f503110d82f3df826000c010cf0250df82023201f10c01d00204528f01b00243c28e83b25e00780b84410b806001c4f28e04e1e42,
  alter 14 4 0x10a88104906457030034010200003100,
  0xf3c361070410f503110d82f3df826000c010cf0250df82023201f10c01d28f01b00243c28e83b25e00710b806001c5228e04e1a43,
  0xf3c361070410f503110d82f3df826000c010cf0250df82023201f10c01d28f01b28e83b25e00710b806001c5228e04e1845,
  alter 14 4 0x10a88104906457030034020200003000,
  0xf903613344110183113cc2f3f1026000c010d48250e982026281f12081d2e981b00243c2e903b25f80780b83a11d006001c542e684e1c63,
  alter 14 3 0xd20480f8000200001000,
  0xf903613344110183113cc2f3f1026000c010d48250e982026281f12081d2e981b00243c2e903b25f80711d006001c562e684e1a63,
  0xfb83614284110e43115ac2f3ec026000c010dc0250e302025c81f11681d17d85830981b00243c30903b262007112806001c5730504e1c73,
  alter 14 5 0x3154070614b03c0525e880040000080200005600,
  0xf803612ac410fe831128c2f3f0026000c010d88250e802026181f10f81d2db81b00243c2db03b265007120006001c5a2d584e1a63,
  0xf903613344110183113cc2f3f1026000c010d48250e982026281f12081d2e981b00285c00243c2e903b25f80711d00680e45b2e684e1c63,
  0x10603615f04111d83115202f3f2026000c010db0250eb02026381f11301d34181b00243c34103b26100710f006001c5d33e04e1a73,
  alter 14 2 0xd90480f80002,
  0xf903613344110183113cc2f3f1026000c010d48250e982026281f12081d2e981b2e903b25f80711d006001c562e684e1865,
  0x10603615f04111d83115202f3f2026000c010db0250eb02026381f11301d34181b00281300243c34103b26100710f00680e45f33e04e1c73,
  0xfb83614284110e43115ac2f3ec026000c010dc0250e302025c81f11681d30981b00243c30903b26200780b861112806001c6030504e1c73,
  alter 14 3 0xe50480f8000200005000,
  0x12083616e04113d43116d42f3f3026000c010dd0250ec82026481f11d81d35e01b00281300243c35d83b26300711600680e46335c04e1c83,
  0xfd836151041119c3115dc2f3ef026000c010dc8250e682026001f11a01d32581b00243c32503b26400780b864119806001c6032204e1c83,
  0xfc83614b041113831141c2f3ed026000c010d78250e502025e81f10881d31781b31703b25c007108006001c5931604e1825,
  0xfb83614284110e43115ac2f3ec026000c010dc0250e302025c81f11681d30981b00243c30903b262007112806001c5730504e1a73,
  0xf803612ac410fe831128c2f3f0026000c010d88250e802026181f10f81d2db81b2db03b265007120006001c5a2d584e1865,
  0xfd836151041119c3115dc2f3ef026000c010dc8250e682026001f11a01d32581b00243c32503b264007119806001c6532204e1a83,
  alter 14 4 0x10a88104109c5703003c370200003100, alter 14 3 0xe00480f800020000f000,
  0x12083616e04113d43116d42f3f3026000c010dd0250ec82026481f11d81d35e01b00243c35d83b263007116006001c6835c04e1a83,
  0x10603615f04111d83115202f3f2026000c010db0250eb02026381f11301d34181b34103b26100710f006001c5d33e04e1875,
  0x10603615f04111d83115202f3f2026000c010db0250eb02026381f11301d17d85834181b00243c34103b26100710f006001c5f33e04e1c73,
  0xfb83614284110e43115ac2f3ec026000c010dc0250e302025c81f11681d30981b30903b262007112806001c5730504e1873,
  0xfd836151041119c3115dc2f3ef026000c010dc8250e682026001f11a01d32581b32503b264007119806001c6532204e1883,
  0x12083616e04113d43116d42f3f3026000c010dd0250ec82026481f11d81d35e01b35d83b263007116006001c6835c04e1885,
  alter 14 2 0x8ee0400005100, alter 14 3 0xee0480f8000200005100,
  alter 16 4 0x350001d0660001b0024001821400003, alter 13 3 0x32c001c007c001821280007,
  alter 27 6 0x248001c00e8001b00d00018051000160538000b04900003,
  0xfb8362a0c6e14303525706d1428320fb4311aa830142c2f28642e237c2d2a086c23ac7523a8742a042b1c782a3ec026000c010d58253050241308233c102219f0210e302025c81f0e281d2c501b2c483b17280730686a0e00062c78032071,
  0xf3c3609cc3519fc341070320f9c311c503009c82f19e82e1a0c2d27bc76292c2b1a502a3df826000c010cd02528e02412e8233bc0221720210df82023201f0df01d1b801b1b783b2318070de8061b10031e21,
  0xf3c3609cc3519fc341070320f9c311c503009c82f19e82e1a0c2d27c076292c2b1a502a3df826000c010cd02528e02412e8233bc0221720210df82023201f0df01d1b801b1b783b2318070de8061b10031e21,
  0xf3c3609cc3519fc341070320f9c311c503009c82f19e82e1a0c2d280876292c2b1a502a3df826000c010cd02528e02412e8233bc0221720210df82023201f0df01d1b801b1b783b2318070de8061b10031e21,
  alter 16 0 0x0, alter 13 4 0x60001c00040018034400140a600007,
  alter 27 6 0x134001c000c001b00fc001803f000161d60000b02180003,
  0xfb8362ab86e14303526346d1428320fb4311ab830142c2f28642e237c2d2a686c2584752580742a042b1c782a3ec026000c010d58253050241308233c102219f0210e302025c81f0e281d2c501b2c483b17280732386a0e00062c78032071]

def rows200 : Array Nat := #[
  alter 16 4 0x12c001d0350001b0078001817980003, alter 13 0 0x0,
  alter 27 6 0x194001c0008001b00f80018036000161c40000b02d80003, alter 16 2 0x330001401a00003,
  alter 13 4 0xbc001c000c00180324001408a00007,
  alter 27 6 0x1d8001c0004001b0004001800bc00161fa0000b03b00003, alter 16 1 0xc080003,
  alter 13 3 0x13c001c0014001817400007, alter 27 0 0x0, alter 16 2 0x350001401880003,
  alter 13 2 0x344001401a00007, alter 27 6 0x58001c001c001b000c0018003000160360000b00b00003,
  alter 16 2 0x38c001403100003, alter 13 1 0xc180007,
  alter 27 6 0x94001c0018001b000800180060001619e0000b00d80003, alter 16 2 0x23800140fd00003,
  alter 13 2 0x324001401980007, alter 27 6 0xa0001c0014001b00140018019000161828000b01400003,
  alter 16 4 0x350001d0660001b0024001826c80003, alter 13 2 0x390001403100007,
  alter 13 2 0x25800140fa80007, alter 13 3 0x32c001c007c001826d80007,
  0xfc83616943514b03219483116902f19882e19942d3ed026000c010d98253160240e502025e81f0ee01d33c81b33c03b2318070eb806002c773528031a46,
  0xfc83616943514b03219483116902f19882e19942d3ed026000c010d98253160240e502025e81f0ee01d33c81b33c03b2318070eb8060030773528031a46,
  0xf903612b4351334320f8c311b043012b02f19e82e27ac2d1fac782b3c2b1be82a3f1026000c010d00252e68240ff8233c38221a88210e982026281f0e781d2a381b2a303b25f8070e40062b18031e21,
  alter 22 1 0x2c00008, alter 22 1 0x3000008, alter 22 1 0x3f80008, alter 22 0 0x0,
  alter 22 1 0xfb00008, alter 22 1 0xfa00008, alter 22 1 0xf00008, alter 22 1 0xe00008,
  0xf903612b4351334320f8c311b043012b02f19e82e27ac2d2128782b3c2b1be82a3f1026000c010d00252e68240ff8233c38221a88210e982026281f0e781d2a381b2a303b25f8070e40062b18031e21,
  0xfb8362a6c6e25e06d1428410fb4311a9c3015ac2f23786b23c4792a042b1c782a3ec026000c010d80253050241308233c102219f0210e302025c81f11681d2d481b2d403b17280730406a10c8062d50032071,
  0xfc83617703514b03219c831176c2f19e82e19f82d3ed026000c010dd8253160240e502025e81f0ea81d36d01b002c3d36c83b2658070e700636e0031a26,
  0xf3c361ea8431e08421070410f48311b0c3010d82f292c2b1a502a3df826000c010ce82528e0243bc0221720210df82023201f10c01d27501b5c203e27483b25d00710b80629b8031e23,
  0xfb8361428410fb4311aa03015ac2f23e47523e07a2a042b1c782a3ec026000c010d18253050243c102219f0210e302025c81f11681d29401b1a003e29383b1728075b503a29306a10c8062948032273,
  0x12083620ac431e204216e0411220311bbc3016d42f2ba42b1c0c2a3f3026000c010da82535c0243c48221aa0210ec82026481f11d81d34001b5ce03e33f83b25f0071160062d20031e23,
  alter 18 1 0x38800016,
  0xf3c361ea8431fe4421070410f48311b0c3010d82f292c2b1a502a3df826000c010ce82528e0243bc0221720210df82023201f10c01d27501b5c203e27483b25d00710b80629b8031e23,
  alter 18 1 0x38880016,
  0x10603615f041106c311d443015202f25fc7525f87a2b702b1b3c2a3f2026000c010db82533e0243c40221a98210eb02026381f11301d30f01b1a003e30e83b1a68075d503a31b86a11380630f8032273,
  0xfc83617703514b03219c831176c2f19e82e19f82d3ed026000c010dd8253160240e502025e81f0ea81d36d01b00303d36c83b2658070e700636e0031a26,
  alter 18 1 0x3300016, alter 18 1 0x33c0016, alter 18 1 0x3040016, alter 18 1 0x3100016,
  0x12083620ac4320044216e0411220311bbc3016d42f2ba42b1c0c2a3f3026000c010da82535c0243c48221aa0210ec82026481f11d81d34001b5ce03e33f83b25f0071160062d20031e23,
  0xf3c361ea8431ed4421070410f48311b0c3010d82f292c2b1a502a3df826000c010ce82528e0243bc0221720210df82023201f10c01d27501b5c203e27483b25d00710b80629b8031e23,
  0xf3c361ea8431ed8421070410f48311b0c3010d82f292c2b1a502a3df826000c010ce82528e0243bc0221720210df82023201f10c01d27501b5c203e27483b25d00710b80629b8031e23,
  0x1060361f44431ee04215f041106c311b343015202f2b702b1b3c2a3f2026000c010d382533e0243c40221a98210eb02026381f11301d2d981b5d783e2d903b26080710f0062b28031e23,
  0x1060361f444320844215f041106c311b343015202f2b702b1b3c2a3f2026000c010d382533e0243c40221a98210eb02026381f11301d2d981b5d783e2d903b26080710f0062b28031e23,
  0x12083620ac4320bc4216e0411220311bbc3016d42f2ba42b1c0c2a3f3026000c010da82535c0243c48221aa0210ec82026481f11d81d34001b5ce03e33f83b25f0071160062d20031e23,
  0x12083620ac4320c04216e0411220311bbc3016d42f2ba42b1c0c2a3f3026000c010da82535c0243c48221aa0210ec82026481f11d81d34001b5ce03e33f83b25f0071160062d20031e23,
  0xf90361334410f8c311b383013cc2f20f87c2b3c2b1be82a3f1026000c010d10252e68243c38221a88210e982026281f12081d2c201b2c183b25f80700347b11d0061a50052c28032061,
  0x1060361f44431f604215f041106c311b343015202f2b702b1b3c2a3f2026000c010d382533e0243c40221a98210eb02026381f11301d2d981b5d783e2d903b26080710f0062b28031e23,
  0x1060361f44431f644215f041106c311b343015202f2b702b1b3c2a3f2026000c010d382533e0243c40221a98210eb02026381f11301d2d981b5d783e2d903b26080710f0062b28031e23,
  0xfb8361428410fb4311aac3015ac2f259c7525987a2a042b1c782a3ec026000c010d18253050243c102219f0210e302025c81f11681d29401b1a003e29383b1728075c983a30e06a10c8062948032273,
  0xfb8361428410fb4311ab43015ac2f25fc7525f87a2a042b1c782a3ec026000c010d18253050243c102219f0210e302025c81f11681d29401b1a003e29383b1728075d503a31b86a10c8062948032273,
  0xfb8361428410fb4311abc3015ac2f26487526447a2a042b1c782a3ec026000c010d18253050243c102219f0210e302025c81f11681d29401b1a003e29383b1728075de83a32b86a10c8062948032273,
  0xfb8361428410fb4311ac43015ac2f26947526907a2a042b1c782a3ec026000c010d18253050243c102219f0210e302025c81f11681d29401b1a003e29383b1728075e703a2e006a10c8062948032273,
  0xfb8361428410fb4311acc3015ac2f26c47526c07a2a042b1c782a3ec026000c010d18253050243c102219f0210e302025c81f11681d29401b1a003e29383b1728075ed83a2ed86a10c8062948032273,
  0xfb8361428410fb4311ad43015ac2f26f47526f07a2a042b1c782a3ec026000c010d18253050243c102219f0210e302025c81f11681d29401b1a003e29383b1728075f403a34586a10c8062948032273,
  0xfb8361428410fb4311adc3015ac2f27247527207a2a042b1c782a3ec026000c010d18253050243c102219f0210e302025c81f11681d29401b1a003e29383b1728075fa83a36206a10c8062948032273,
  0x12083620ac431f844216e0411220311bbc3016d42f2ba42b1c0c2a3f3026000c010da82535c0243c48221aa0210ec82026481f11d81d34001b5ce03e33f83b25f0071160062d20031e23,
  0x12083620ac431f884216e0411220311bbc3016d42f2ba42b1c0c2a3f3026000c010da82535c0243c48221aa0210ec82026481f11d81d34001b5ce03e33f83b25f0071160062d20031e23,
  0x12083620ac431f8c4216e0411220311bbc3016d42f2ba42b1c0c2a3f3026000c010da82535c0243c48221aa0210ec82026481f11d81d34001b5ce03e33f83b25f0071160062d20031e23,
  alter 18 0 0x0, alter 18 1 0x40016, alter 18 1 0x80016, alter 18 1 0xc0016,
  alter 29 4 0x1180019030000180060001502c00003, alter 28 3 0x1740018000800151d700007,
  0xfb8362b046e26806d1428410fb4311ac03015ac2f25f07525ec742a042b1c782a3ec026000c010d80253050241308233c102219f0210e302025c81f11681d2d481b2d403b1728072d306a10c8062d50032071,
  alter 2 1 0x18d00003, alter 2 1 0x18d80003, alter 2 1 0x18e00003, alter 2 1 0x18e80003,
  alter 29 4 0x248001905600018004400151b500003, alter 28 3 0x25800180074001504e00007,
  0xfb8362a0c6e25706d1428410fb4311aa83015ac2f23ac7523a8742a042b1c782a3ec026000c010d80253050241308233c102219f0210e302025c81f11681d2d481b2d403b17280733606a10c8062d50032071,
  alter 2 0 0x0, alter 2 1 0x80003, alter 2 1 0x100003, alter 2 1 0x180003, alter 29 0 0x0,
  alter 28 0 0x0,
  0xfb8362ab86e26346d1428410fb4311ab83015ac2f2584752580742a042b1c782a3ec026000c010d80253050241308233c102219f0210e302025c81f11681d2d481b2d403b17280733d06a10c8062d50032071,
  alter 2 1 0x3400003, alter 2 1 0x3480003, alter 2 1 0x3500003, alter 2 1 0x3580003,
  alter 29 4 0x1780019039000180078001501e00003, alter 28 3 0x740018001800151fb00007,
  0xfb8362b746e26e06d1428410fb4311ad03015ac2f23ac7523a8742a042b1c782a3ec026000c010d80253050241308233c102219f0210e302025c81f11681d2d481b2d403b17280732806a10c8062d50032071,
  alter 2 1 0x2480003, alter 2 1 0x2500003, alter 2 1 0x2700003, alter 2 1 0x2780003,
  alter 29 4 0xdc001901f000180008001507300003, alter 28 3 0x1140018000c00151e500007,
  0xfb8362ba86e27106d1428410fb4311ad83015ac2f2584752580742a042b1c782a3ec026000c010d80253050241308233c102219f0210e302025c81f11681d2d481b2d403b17280735b06a10c8062d50032071,
  alter 2 1 0x1f080003, alter 2 1 0x1f100003, alter 2 1 0x1f180003, alter 2 1 0x1f200003,
  alter 29 4 0x1cc001900d400180068001501500003, alter 28 3 0x1c80018000400151ee00007,
  0xfb8362b406e26b06d1428410fb4311ac83015ac2f25f07525ec742a042b1c782a3ec026000c010d80253050241308233c102219f0210e302025c81f11681d2d481b2d403b1728072fb86a10c8062d50032071,
  alter 2 1 0x1e600003, alter 2 1 0x1e680003, alter 2 1 0x1e700003, alter 2 1 0x1e780003,
  alter 29 4 0x34001900500018001800151d380003, alter 28 3 0xa000180014001518800007,
  alter 2 1 0x5e00003, alter 2 1 0x5e80003, alter 2 1 0x5f00003, alter 2 1 0x5f80003,
  alter 29 4 0x70001900600018001000151fb00003, alter 28 3 0x480018001c001502f80007,
  alter 2 1 0x7280003, alter 2 1 0x7300003, alter 2 1 0x7380003, alter 2 1 0x7c00003,
  0x10603615f041106c311e143015202f27dc702b702b1b3c2a3f2026000c010d382533e0241308233c40221a98210eb02026381f11301d2d981b2d903b1a680700386a1138062da0032071,
  0x10603615f041106c311e143015202f27dc702b702b1b3c2a3f2026000c010d382533e0241308233c40221a98210eb02026381f11301d2d981b2d903b1a6807003c6a1138062da0032071,
  0x10603615f041106c311e443015202f281075280c7a2b702b1b3c2a3f2026000c010db82533e0243c40221a98210eb02026381f11301d30f01b1a003e30e83b1a680711380630f8031e23,
  0xfb8361428410fb4311c6830202c7f15ac2f2a042b1c782a3ec026000c010d80253050243c082219f0210e302025c81f11681d2d481b2d407e26200700407d1128062d50031e71,
  0xfb8361428410fb4311c6830202c7f15ac2f2a042b1c782a3ec026000c010d80253050243c082219f0210e302025c81f11681d2d481b2d407e26200700447d1128062d50031e71,
  0xfb8361428410fb4311c6830202c7f15ac2f2a042b1c782a3ec026000c010d80253050243c082219f0210e302025c81f11681d2d481b2d407e26200700447d1128062d50031e71,
  0xfb8361428410fb4311c6830202c7f15ac2f2a042b1c782a3ec026000c010d80253050243c082219f0210e302025c81f11681d2d481b2d407e26200700487d1128062d50031e71,
  alter 3 15 0x3ef4c71704c070160cec01150b8c1f143e585f132f58010c26e8030b1468010a28803f091508700811e0720725d8060627a89e053cb0000300100002,
  0xf90361334410f8c311bb43013cc2f2b3c2b1be82a3f1026000c010d10252e68243c38221a88210e982026281f12081d2c201b2c183b25f807004c7b11d0062c28031e61,
  alter 3 15 0x3ef4c71704c070160cec01150b8c1f143e585f132f58010c26e8030b1468010a28803f091508700811e4720725d8060627a89e053cb0000300100002,
  0xf90361334410f8c311bb43013cc2f2b3c2b1be82a3f1026000c010d10252e68243c38221a88210e982026281f12081d2c201b2c183b25f80700507b11d0062c28031e61,
  0xfd8361510410fd4311ca03020987f15dc2f2ab02b1cc02a3ef026000c010d90253220243c50221a60210e682026001f11a01d2e801b0040802e787e2640071198062e88031e81,
  0xfd8361510410fd4311ca03020987f15dc2f2ab02b1cc02a3ef026000c010d90253220243c50221a60210e682026001f11a01d2e801b0044802e787e2640071198062e88031e81,
  0xfd8361510410fd4311ca03020987f15dc2f2ab02b1cc02a3ef026000c010d90253220243c50221a60210e682026001f11a01d2e801b0044802e787e2640071198062e88031e81,
  0xfd8361510410fd4311ca03020987f15dc2f2ab02b1cc02a3ef026000c010d90253220243c50221a60210e682026001f11a01d2e801b0048802e787e2640071198062e88031e81,
  0xf90361334410f8c311f243013cc2f28b4702b3c2b1be82a3f1026000c010d10252e68240ff8233c38221a88210038710e982026281f12081d2c201b2c183b1a900711a8062c28032061,
  0xf90361334410f8c311f243013cc2f28b4702b3c2b1be82a3f1026000c010d10252e68240ff8233c38221a8821003c710e982026281f12081d2c201b2c183b1a900711a8062c28032061,
  0xf803612ac410f7c311cb03020e07f128c2f2afc2b1bc42a3f0026000c010d28252d58243c58221a78210e802026181f10f81d2a581b0040812a507e2650071200062a60031e61,
  0xf803612ac410f7c311cb03020e07f128c2f2afc2b1bc42a3f0026000c010d28252d58243c58221a78210e802026181f10f81d2a581b0044812a507e2650071200062a60031e61,
  0xf803612ac410f7c311cb03020e07f128c2f2afc2b1bc42a3f0026000c010d28252d58243c58221a78210e802026181f10f81d2a581b0044812a507e2650071200062a60031e61,
  0xf803612ac410f7c311cb03020e07f128c2f2afc2b1bc42a3f0026000c010d28252d58243c58221a78210e802026181f10f81d2a581b0048812a507e2650071200062a60031e61,
  alter 14 2 0x8fc0400001000,
  0xf3c361070410f48311ba03010d82f23847c292c2b1a502a3df826000c010ce82528e0243bc0221720210df82023201f10c01d27501b27483b25e00710b8061738050054822758032041,
  0xf3c361070410f48311c483010d82f27a87c292c2b1a502a3df826000c010ce82528e0243bc0221720210df82023201f10c01d27501b27483b25e00710b8061750050034822758032041,
  alter 7 1 0x1870000a, alter 7 1 0x1898000a,
  0x10603615f041106c311e143015202f27dc702b702b1b3c2a3f2026000c010d382533e0241308233c40221a98210eb02026381f11301d2d981b2d903b1a68071138062da0031e21,
  0x10603615f041106c311d683015202f28707c2b702b1b3c2a3f2026000c010d382533e0243c40221a98210eb02026381f11301d2d981b2d903b26100700346110f0061838052da0032071,
  alter 3 12 0x3ef4c71704c070160fa401150b8c1f143e4853132298720825d8060707f820063598820533cc5f04375001030b480302,
  alter 7 0 0x0, alter 7 1 0x28000a,
  alter 17 14 0x30e0c71604c070150cec01140a2c1f133e585f122f58010b26e8030a1468010928803f083790020725d8060627a89e053cb0000300100002,
  alter 7 1 0xc0000a, alter 7 1 0xe8000a,
  0xf90361334410f8c311f243013cc2f28b4702b3c2b1be82a3f1026000c010d10252e68240ff8233c38221a88210e982026281f12081d2c201b2c183b1a900711a8062c28031e21,
  alter 7 1 0x3c0000a, alter 7 1 0x210000a, alter 7 1 0x1f08000a, alter 7 1 0x1f50000a,
  alter 7 1 0x1fe0000a, alter 7 1 0x1e08000a, alter 7 1 0x560000a, alter 7 1 0x588000a,
  alter 7 1 0x728000a, alter 7 1 0x770000a,
  0xf3c361070410f48311c403010d82f27947c292c2b1a502a3df826000c010ce82528e0243bc0221720210df82023201f10c01d27501b27483b25e00710b8060058822758031e41,
  alter 31 2 0x1680013003c0602,
  0x12083616e0411220311d483016d42f2ba42b1c0c2a3f3026000c010da82535c0243c48221aa0210ec82026481f11d81d34001b15388533f83b263007005c641160063408032081,
  alter 31 2 0x168001300200602, alter 3 1 0x28980008,
  0x12083616e0411220311d5c3016d42f2ba42b1c0c2a3f3026000c010da82535c0243c48221aa0210ec82026481f11d81d34001b15508533f83b2630070060641160063408032081,
  0xfc83614b0410fc4311fec30141c2f27f4832a642b1b102a3ed026000c010d20253160243c20221a38210e502025e81f10881d2ca01b17403e2c983b25c0071080062ca8031e23,
  alter 3 1 0x28b80008, alter 3 1 0x2f400008, alter 14 1 0x4c0004, alter 14 0 0x0,
  alter 3 1 0x1fa00008, alter 3 1 0x1fb80008, alter 3 1 0x1e400008, alter 3 1 0x19b00008,
  alter 3 1 0x18480008, alter 3 1 0x18500008, alter 3 1 0x580008, alter 3 0 0x0, alter 3 1 0x80008,
  alter 3 1 0xc00008, alter 3 1 0xd80008, alter 3 1 0xe00008, alter 3 1 0x1bd80008,
  alter 3 1 0x1bf00008, alter 3 1 0x1bf80008, alter 3 1 0x1c180008, alter 3 1 0x1c300008,
  alter 3 1 0x1c380008]

def rows400 : Array Nat := #[
  alter 3 1 0x7900008, alter 3 1 0x7a80008, alter 3 1 0x7b00008, alter 3 1 0x5d80008,
  alter 3 1 0x5f00008, alter 3 1 0x5f80008, alter 3 1 0x4480008, alter 3 1 0x4600008,
  alter 3 1 0x4680008,
  0xfc83614b0410fc4311dec30141c2f238c792948882a642b1b102a3ed026000c010d20253160243c20221a38210e502025e81f10881d2ca01b2c983b25c0070f50062ca8031c21,
  0xfc83614b0410fc4311dec30141c2f238c79298c882a642b1b102a3ed026000c010d20253160243c20221a38210e502025e81f10881d2ca01b2c983b25c0070f50062ca8031c21,
  alter 14 2 0x80e0400005600, alter 31 2 0x168001300180002, alter 17 2 0x5e8001600a00013,
  alter 31 1 0x1c0002, alter 31 0 0x0,
  0xfc83614b0410fc4311dec30141c2f27e8792a642b1b102a3ed026000c010d20253160243c20221a38210e502025e81f10881d2ca01b0074852c983b25c0071080062ca8031e21,
  alter 14 2 0x4cc30400005000, alter 31 2 0x168001300080002, alter 31 1 0xc0002,
  alter 31 1 0xf00002,
  0x10603615f041106c311ea43015202f2890792b702b1b3c2a3f2026000c010d382533e0243c40221a98210eb02026381f11301d2d981b2d903b2610075bc86a10f0062da0031e71,
  0xfc83614b0410fc4311dec30141c2f27e8792a642b1b102a3ed026000c010d20253160243c20221a38210e502025e81f10881d2ca01b0084852c983b25c0071080062ca8031e21,
  0x12083616e0411220311e483016d42f2ba42b1c0c2a3f3026000c010da82535c0243c48221aa0210ec82026481f11d81d34001b33f83b2630070060641160063408031e81,
  0xfb8361428410fb4311c68301e587f15ac2f2a042b1c782a3ec026000c010d80253050243c082219f0210e302025c81f11681d2d481b2d403b2620071128062d50031c21,
  0x10603615f041106c311ea43015202f2890792b702b1b3c2a3f2026000c010d382533e0243c40221a98210eb02026381f11301d2d981b2d903b2610075bd86a10f0062da0031e71,
  0x12083616e0411220311e703016d42f2ba42b1c0c2a3f3026000c010da82535c0243c48221aa0210ec82026481f11d81d34001b33f83b2630070088641160063408031e81,
  0xfb8361428410fb4311c68301e787f15ac2f2a042b1c782a3ec026000c010d80253050243c082219f0210e302025c81f11681d2d481b2d403b2620071128062d50031c21,
  0x12083616e0411220311e8c3016d42f2ba42b1c0c2a3f3026000c010da82535c0243c48221aa0210ec82026481f11d81d34001b33f83b263007008c641160063408031e81,
  alter 17 2 0xe14001601a00013,
  0xfb8361428410fb4311c703020287f15ac2f2a042b1c782a3ec026000c010d80253050243c082219f0210e302025c81f11681d2d481b2d403b2620071128062d50031c21,
  0xfb8361428410fb4311c743020487f15ac2f2a042b1c782a3ec026000c010d80253050243c082219f0210e302025c81f11681d2d481b2d403b2620071128062d50031c21,
  0xfb8361428410fb4311c6830202c7f15ac2f2a042b1c782a3ec026000c010d80253050243c082219f0210e302025c81f11681d2d481b2d403b2620071128062d50031c21,
  alter 14 2 0x8e60400000600,
  0x10603615f041106c311f1c3015202f2b702b1b3c2a3f2026000c010d382533e0243c40221a98210eb02026381f11301d2d981b2d903b261007004c6110f0062da0031e71,
  0x10603615f041106c311f1c3015202f2b702b1b3c2a3f2026000c010d382533e0243c40221a98210eb02026381f11301d2d981b2d903b26100700506110f0062da0031e71,
  alter 14 2 0xc30400005000, alter 14 2 0x8e3040000f600,
  0x12083616e0411220311f543016d42f2ba42b1c0c2a3f3026000c010da82535c0243c48221aa0210ec82026481f11d81d34001b33f83b263007004c641160063408031e81,
  0x12083616e0411220311f543016d42f2ba42b1c0c2a3f3026000c010da82535c0243c48221aa0210ec82026481f11d81d34001b33f83b2630070050641160063408031e81,
  0xfd8361510410fd4311ca0301eec7f15dc2f2ab02b1cc02a3ef026000c010d90253220243c50221a60210e682026001f11a01d2e801b2e783b2640071198062e88031c21,
  0xfd8361510410fd4311ca0301efc7f15dc2f2ab02b1cc02a3ef026000c010d90253220243c50221a60210e682026001f11a01d2e801b2e783b2640071198062e88031c21,
  0xfd8361510410fd4311ca83020947f15dc2f2ab02b1cc02a3ef026000c010d90253220243c50221a60210e682026001f11a01d2e801b2e783b2640071198062e88031c21,
  0xfd8361510410fd4311cac3020a87f15dc2f2ab02b1cc02a3ef026000c010d90253220243c50221a60210e682026001f11a01d2e801b2e783b2640071198062e88031c21,
  0xfd8361510410fd4311ca03020987f15dc2f2ab02b1cc02a3ef026000c010d90253220243c50221a60210e682026001f11a01d2e801b2e783b2640071198062e88031c21,
  0xf803612ac410f7c311cb0301f287f128c2f2afc2b1bc42a3f0026000c010d28252d58243c58221a78210e802026181f10f81d2a581b2a503b2650071200062a60031c21,
  0xf803612ac410f7c311cb0301f307f128c2f2afc2b1bc42a3f0026000c010d28252d58243c58221a78210e802026181f10f81d2a581b2a503b2650071200062a60031c21,
  0xf803612ac410f7c311cb83020dc7f128c2f2afc2b1bc42a3f0026000c010d28252d58243c58221a78210e802026181f10f81d2a581b2a503b2650071200062a60031c21,
  0xf803612ac410f7c311cbc3020f07f128c2f2afc2b1bc42a3f0026000c010d28252d58243c58221a78210e802026181f10f81d2a581b2a503b2650071200062a60031c21,
  0xf803612ac410f7c311cb03020e07f128c2f2afc2b1bc42a3f0026000c010d28252d58243c58221a78210e802026181f10f81d2a581b2a503b2650071200062a60031c21,
  alter 17 2 0x3a0001600080013, alter 17 0 0x0, alter 17 2 0x4c001600040013,
  alter 17 2 0x98001601f80013, alter 17 2 0xc8001601fc0013, alter 17 2 0xf8001601f00013,
  alter 17 2 0x128001601f40013, alter 17 2 0x13c001601e80013, alter 17 2 0x148001601ec0013,
  0xfc83614b0410fc4311dec30141c2f238c792be0882a642b1b102a3ed026000c010d20253160243c20221a38210e502025e81f10881d2ca01b2c983b25c0070f50062ca8031c21,
  0xfc83614b0410fc4311dec30141c2f238c792be4882a642b1b102a3ed026000c010d20253160243c20221a38210e502025e81f10881d2ca01b2c983b25c0070f50062ca8031c21,
  0xf3c361070410f48311c443010d82f27987c292c2b1a502a3df826000c010ce82528e0243bc0221720210df82023201f10c01d27501b27483b25e00710b8062758031c21,
  0xc015a801714d0161ec01300203d00243c80b83a001c8a1097,
  0x2390363ee026000c0100203d00243c80b83a001c8a4f20030e47, alter 30 0 0x0,
  alter 30 15 0x35c001303d057113174011025c00c0f3edc270e0d2c240d3c40010c0d40060b2618030a146801092bb83f08356002073c2806067ca09e0500020000,
  alter 30 1 0x880005,
  alter 30 15 0x3480013038457113174011025c00c0f3edc270e0d2c240d3c40010c0d40060b2618030a146801092bb83f08356002073c2806067ca09e0500020000,
  alter 30 2 0x2800135b100005,
  alter 30 15 0x3f000130d8c52113174011025c00c0f3edc270e0d2c240d3c40010c0d40060b2618030a146801092bb83f08356002073c2806067ca09e0500020000,
  0x2390363ee026000c0100204500243c80b844001c8a4f20030e47, alter 30 2 0x1600013504c0005,
  alter 30 2 0x160001350500005, alter 30 1 0x2000005,
  0x10603615f041106c311ea43015202f2890792b702b1b3c2a3f2026000c010d382533e0243c40221a98210eb02026381f11301d2d981b2d903b26100710f0062da0031c21,
  alter 30 1 0x3500005, alter 30 2 0x18c00135be80005,
  alter 30 15 0x3fc0013019457113174011025c00c0f3edc270e0d2c240d3c40010c0d40060b2618030a146801092bb83f08356002073c2806067ca09e0500020000,
  alter 30 15 0x3f80013066057113174011025c00c0f3edc270e0d2c240d3c40010c0d40060b2618030a146801092bb83f08356002073c2806067ca09e0500020000,
  0xc0160481716601622901300203d00243c80b83a001c8a1097, alter 9 1 0x65c0012, alter 5 1 0x3edc0012,
  alter 5 1 0x3ed80012, alter 9 1 0x5c80012, alter 9 1 0x380012,
  0x10603614403515f03213a0311df83015202f2b702b1b3c2a3f2026000c010d502533e0243c40221a98210eb02026381f11301d2c681b2c603b26100710f0062c70031c21,
  alter 9 1 0x7540012, alter 9 1 0x79c0012, alter 15 1 0x5f00012, alter 9 1 0x3c0012,
  alter 9 1 0x4640012, alter 9 0 0x0, alter 9 1 0x40012, alter 5 1 0x3e800012, alter 9 1 0x80012,
  alter 9 1 0xc0012, alter 9 1 0x6340012, alter 9 1 0x4780012, alter 9 1 0x6000012,
  alter 20 1 0x7b40012, alter 5 1 0x3f600012, alter 9 1 0x100012, alter 23 1 0x1cc0012,
  alter 5 1 0x3ebc0012, 0xba4910998900af88f000c015b708e16a08d5bb88c00908b0aa8,
  0xba491099c930af88f000c015b708e17b8925bb88c00908b0a29, alter 9 1 0x140012, alter 11 1 0x5780012,
  alter 11 1 0x5040012, alter 9 1 0x75c0012, alter 5 1 0x1440012, alter 5 1 0x3f580012,
  0xbe4910998900b008f000c015b708e16a08d5bb88c00948b0aa8,
  0xbe491099c930b008f000c015b708e17b8925bb88c00948b0a29, alter 5 1 0x3f280012, alter 5 1 0x1640012,
  alter 5 1 0x3fc00012, alter 5 1 0x1600012, alter 23 0 0x0, alter 11 1 0x5800012,
  alter 23 1 0x40012, alter 23 1 0x80012, alter 23 1 0xc0012, alter 23 1 0x100012,
  alter 15 1 0x440012, alter 23 1 0x180012, 0xc8c9109b0900b248f000c015fe88e16e08d60008c0090940ab8,
  0xc8c9109b4930b248f000c015fe88e1af09260008c0090940a39, alter 23 1 0x1c0012,
  0xccc9109b0900b2c8f000c015fe88e16e08d60008c0094940ab8,
  0xccc9109b4930b2c8f000c015fe88e1af09260008c0094940a39, alter 5 1 0x3a5c0012, alter 5 1 0x3a580012,
  alter 5 1 0x3a640012, alter 5 1 0x3a600012, alter 5 1 0x3a6c0012, alter 5 1 0x3e380012,
  alter 5 1 0x3a680012, alter 5 1 0x3a740012, alter 24 1 0x180012, alter 24 1 0x1c0012,
  alter 24 0 0x0, alter 24 1 0x40012, alter 24 1 0x80012, alter 24 1 0xc0012, alter 24 1 0x300012,
  alter 20 1 0x1c0012, alter 20 0 0x0, alter 20 1 0x40012, alter 20 1 0x80012, alter 20 1 0xc0012,
  alter 20 1 0x300012, alter 20 1 0x340012, alter 15 0 0x0, alter 15 1 0x40012, alter 15 1 0x80012,
  alter 15 1 0xc0012, alter 15 1 0x7f00012, alter 15 1 0x7f40012, alter 15 1 0x7f80012,
  alter 11 0 0x0, alter 11 1 0xc0012, alter 11 1 0x80012, alter 11 1 0x140012, alter 11 1 0x100012,
  alter 11 1 0x1c0012, alter 11 1 0x180012, alter 19 0 0x0, alter 19 1 0xc0012, alter 19 1 0x80012,
  alter 19 1 0x340012, alter 19 1 0x300012, alter 19 1 0x3c0012, alter 19 1 0x380012,
  alter 23 1 0xfc0012,
  0x12083615a83516e03213c0311eb03016d42f2ba42b1c0c2a3f3026000c010d682535c0243c48221aa0210ec82026481f11d81d2cc01b2cb83b2630071160062cc8031c21,
  alter 11 1 0x5840012, alter 15 1 0x52c0012, alter 11 1 0x5a00012, alter 24 1 0x1a40012,
  alter 11 1 0x5bc0012, alter 19 1 0x30c0012, alter 11 1 0x4580012, alter 5 1 0x3a500012,
  0xf90361338351334321418311f143013cc2f2b3c2b1be82a3f1026000c010d30252e68243c38221a88210e982026281f12081d2a801b2a783b25f80711d0062a88031c21,
  alter 20 1 0x6480012, alter 15 1 0x300012, alter 19 1 0x3400012, alter 24 1 0x140012,
  0x10603617a43515f032106c311df83015202f2b702b1b3c2a3f2026000c010d502533e0243c40221a98210eb02026381f11301d35681b35603b26100710f0063570031c21,
  alter 5 1 0x4c0012, alter 20 1 0x180012,
  0x12083617a83516e0321220311eb03016d42f2ba42b1c0c2a3f3026000c010d682535c0243c48221aa0210ec82026481f11d81d35801b35783b2630071160063588031c21,
  alter 15 1 0x1c0012,
  0xf903617ac351334320f8c311f143013cc2f2b3c2b1be82a3f1026000c010d30252e68243c38221a88210e982026281f12081d35981b35903b25f80711d00635a0031c21,
  alter 11 1 0x40012, alter 19 1 0x40012, alter 5 1 0x680012, alter 5 1 0x700012,
  alter 5 1 0x780012]

def rows600 : Array Nat := #[
  alter 5 0 0x0, alter 5 1 0xc0012, alter 5 1 0x80012, alter 5 1 0x140012, alter 5 1 0x100012,
  alter 5 1 0x1c0012, alter 5 1 0x240012, alter 5 1 0x200012, alter 5 1 0x2c0012,
  0x1fc096000c010f701d009c4500a03c80e8440098950c97, 0xc01009c3d00a03c80e83a00988a0a97,
  0x990990b8c8f0af098000c015bb88c17f09700a48b0821, 0x9f8990bc08f0af098000c015bb88c17f09700a88b0821,
  0x9a0990bc48f0af098000c015bb88c17f09700ac8b0821, 0x99890000c0180ec8d00b09a06a8,
  0x99c93000c0180f09200b49a0629, 0x9f8990bfc8f0af098000c015bb88c17f09700b88b0821,
  0x9a8990c748f0b1c98000c0160008c1af89700a4940831, 0xa04990ca88f0b1c98000c0160008c1af89700a8940831,
  0x9b8990cac8f0b1c98000c0160008c1af89700ac940831, 0x9b090000c0180f48d00b09b06b8,
  0x9b493000c0180f89200b49b0639, 0xa04990ce48f0b1c98000c0160008c1af89700b8940831,
  0xc0100203d00243c80b83a001c8a0a97, 0xc0100203d00243c80b83a001c8a0a97,
  0xc0100204500243c80b844001c8a0a97, 0xc01009c3d80fc3a00bc8a089a, 0xc01009c3d80e83a00988a089a,
  0xc0100c43d81003a00c08a089a, 0xc0180e49c002850069a, 0xc0180e49c002850069a, 0xc0181049c00c850069a,
  0xc0100d03d81083a00cc8a089a, 0xc0100d49d049a, 0xc0100d89d049a, 0xc0100dc9d049a, 0xc0100dc9d049a,
  0xc0100dc9d049a, 0x9f8990af098000c01810c9700e09e0621, 0xc0100e49d049a, 0xc0100e49d049a,
  0xa04990b1c98000c0181109700e09f0631, 0xc018104a200e8a100c8a0089a, 0xc01009c4580fc4400bc8a089a,
  0xc01009c4580e84400988a089a, 0xc0100c44581004400c08a089a, 0xc0100d04581084400cc8a089a,
  0xc0100eca30421, 0xc0100f0a30421, 0xc0100f4a30421, 0xc0100f8a404a8, 0xc0100fca404a8,
  0xc010100a404a8, 0xc010104a50429, 0xc010108a404a8, 0xc01010ca50429, 0xc010110a404a8,
  0xc010114a50429, 0xc010118a404a8, 0xc01011ca50429, 0xc010120a30421, 0xc010124a30421,
  0xc0100f8a604b8, 0xc0100fca604b8, 0xc010100a604b8, 0xc010104a70439, 0xc010108a604b8,
  0xc01010ca70439, 0xc010110a604b8, 0xc010114a70439, 0xc010118a604b8, 0xc01011ca70439,
  0xc0100eca80431,
  0xfc83618f43514b03219dc3118f02f20f42e21042d3ed026000c0112d8253160240e502025e81f0ed81d39c81b002ca939c03b2660070ea00639e8031a61,
  0xc0100f0a80431,
  0xfc83618f43514b03219dc3118f02f20f42e21042d3ed026000c0112d8253160240e502025e81f0ed81d39c81b0030a939c03b2660070ea00639e8031a61,
  0xc010120a404a8, 0xc0100f4a80431, 0xc010124a404a8, 0xc0100eca404a8, 0xc0100f0a404a8,
  0xc010120a50429, 0xc0100f4a404a8, 0xc010124a50429, 0xc0100eca50429, 0xc0100f0a50429,
  0xc010120a80431, 0xc0100f4a50429, 0xc010124a80431, 0xc0100eca604b8, 0xc0100f0a604b8,
  0xc010120a604b8, 0xc0100f4a604b8, 0xc010124a604b8, 0xc0100eca70439, 0xc0100f0a70439,
  0xc010120a70439, 0xc0100f4a70439, 0xc010124a70439, 0xba08f000c015bb88c01288b0621, 0xc01012caa0421,
  0xbd88f000c015bb88c01308b0621, 0xbe091000c015b708e01348b0621, 0xc088f000c015bb88c01388b0621,
  0xc1091000c015b708e013c8b0621, 0xc208f000c015bb88c01408b0621, 0xc2c8f000c015bb88c01448b0621,
  0xc010148aa0421, 0xc388f000c015bb88c014c8b0621, 0xc010150aa0421, 0xc888f000c0160008c0128940631,
  0xc01012cab0431, 0xcc08f000c0160008c0130940631, 0xcc891000c015fe88e0134940631,
  0xcf08f000c0160008c0138940631, 0xcf891000c015fe88e013c940631, 0xd088f000c0160008c0140940631,
  0xd148f000c0160008c0144940631, 0xc010148ab0431, 0xd208f000c0160008c014c940631, 0xc010150ab0431,
  0xfc836199c3514b03219c43119982f28642e237c2d29386c3ed026000c011588253160240e502025e81f0e901d3ac81b3ac03b2668074fa86a0e58063b38031a71,
  0xc010154ac0421, 0xc010158ac0421, 0xc010154ad0431, 0xc010158ad0431,
  0xfc836199c3514b03219c43119982f28642e237c2d2a086c3ed026000c011588253160240e502025e81f0e901d3ac81b3ac03b26680751806a0e58063b38031a71,
  alter 25 0 0x0, alter 25 2 0xcc00120048000d, 0xc01015c8b0421,
  0xfc836199c3514b03219c43119982f28642e28782d3ed026000c011588253160240e502025e81f0e901d3ac81b3ac03b26680701606a0e58063b38031a71,
  alter 25 2 0xf400120074000d,
  0xfc836199c3514b03219c43119982f28642e28782d3ed026000c011588253160240e502025e81f0e901d3ac81b3ac03b26680701646a0e58063b38031a71,
  alter 25 2 0x9c001207c8000d, 0xc0101688b0421, 0xc01016c8b0421, 0xc0100908b0421, 0xc0101708b0421,
  0xc0101748b0421, 0xc0100a88b0421, 0xc0101788b0421, 0xc01017c8b0421, 0xc0101788b0421,
  0xc0101808b0421, 0xc0101848b0421, 0xc0101348b0421, 0xc0100948b0421, 0xc0101888b0421,
  0xc01018c8b0421, 0xc0101908b0421, 0xc0101948b0421, 0xc0101948b0421, 0xc0101988b0421,
  0xc0100b88b0421, 0xc01019c8b0421, 0xc0101a08b0421, 0xc0101a48b0421, 0xc0101a88b0421,
  0xc0101ac8b0421, 0xc0101b08b0421, 0xc0101b48b0421, 0xc01013c8b0421, 0xc0101b88b0421,
  0xc0101a88b0421, 0xc0101bc8b0421, 0xc0101c08b0421, 0xc0101bc8b0421, 0xc0101c48b0421,
  0xc0101c88b0421, 0xc0101cc8b0421, 0xc0101d08b0421, 0xc0101d48b0421, 0xc0101d88b0421,
  0xc0101cc8b0421, 0xc0101c88b0421, 0xc0101dc8b0421, 0xc0101e08b0421, 0xc0101e48b0421,
  0xc0101e88b0421, 0xc01014c8b0421, 0xc0101e88b0421, 0xc0101e48b0421, 0xc0101ec8b0421,
  0xc0101f08b0421, 0xc0101f48b0421, 0xc0101f08b0421, 0xc0101f88b0421,
  0xfc836196c3514b03219bc3119682f19e82e19f82d3ed026000c0114d8253160240e502025e81f0e481d3aa01b002cae3a983b25c0070e20063ad8031a21,
  0xc01015c940431,
  0xfc83619b03514b03219d83119ac2f28982e28a82d3ed026000c0115a8253160240e502025e81f01606f0ec01d3b081b3b003b2670070e88063b60031a81,
  0xfc836196c3514b03219bc3119682f19e82e19f82d3ed026000c0114d8253160240e502025e81f0e481d3aa01b0030ae3a983b25c0070e20063ad8031a21,
  0xfc83619b03514b03219d83119ac2f28982e28a82d3ed026000c0115a8253160240e502025e81f01646f0ec01d3b081b3b003b2670070e88063b60031a81,
  0xc010168940431, 0xc01016c940431, 0xc010090940431, 0xc010170940431, 0xc010174940431,
  0xc0100a8940431, 0xc010178940431, 0xc01017c940431]

end SourceAtlas.Python.Automaton
